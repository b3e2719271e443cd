import VideoInterop.Lib.SerialQueue
import VideoInterop.LeaseOwner.Runs

/-!
# Leases and the release queue

The status of a lease, its holders, the queue and the running job are updated
separately.  `Mirrors` says the statuses are the view the leases have of the
queue: a lease is queued or releasing exactly when the queue says so, and active
exactly when it has a holder.  `Coupled` adds that the executor is never idle
while a job waits.

The queue itself is an instance of `SerialQueue`.
-/

namespace VideoInterop.LeaseOwner

/-- An attempt at a release: its generation and the backend token it gives back. -/
abbrev Attempt := Ref × Term

/-- The attempt of a job, with its lease. -/
def Job.attempted (job : Job) : Ref × Attempt := (job.token, job.generation, job.backendToken)

/-- The release queue and job. -/
def serialQueue (s : State) : SerialQueue Ref Attempt where
  running := s.releaseJob.map fun job => job.attempted
  waiting := s.releaseQueue.map Job.attempted

/-- One lease and the queue agree. -/
structure MirrorsAt (leases : FMap Ref Entry) (q : SerialQueue Ref Attempt) (token : Ref) :
    Prop where
  /-- A lease is active as long as it has a holder. -/
  active : ∀ entry, leases.fetch token = some entry →
    (entry.status = .active ↔ entry.holders.Nonempty)
  /-- A queued lease is in the queue. -/
  queued : ∀ attempt, (token, attempt) ∈ q.waiting ↔
    ∃ entry, leases.fetch token = some entry ∧
      entry.status = .releaseQueued attempt.1 ∧ entry.backendToken = attempt.2
  /-- A releasing lease is the job. -/
  releasing : ∀ attempt, q.running = some (token, attempt) ↔
    ∃ entry, leases.fetch token = some entry ∧
      entry.status = .releasing attempt.1 ∧ entry.backendToken = attempt.2

/-- All leases and the queue agree. -/
structure Mirrors (leases : FMap Ref Entry) (q : SerialQueue Ref Attempt) : Prop where
  /-- No lease has two jobs. -/
  exclusive : q.Exclusive
  /-- Every lease agrees. -/
  mirror : ∀ token, MirrorsAt leases q token

/-- All leases but one agree with the queue, which has no job for that one. -/
structure MirrorsExcept (token : Ref) (leases : FMap Ref Entry) (q : SerialQueue Ref Attempt) :
    Prop where
  /-- No lease has two jobs. -/
  exclusive : q.Exclusive
  /-- The others agree. -/
  mirror : ∀ other, other ≠ token → MirrorsAt leases q other
  /-- This one has no job. -/
  jobless : ∀ attempt, (token, attempt) ∉ q.jobs

/-- The invariant of the executor's side of the state. -/
structure Coupled (s : State) : Prop where
  /-- The leases agree with the queue. -/
  mirrors : Mirrors s.leases (serialQueue s)
  /-- The queue does not wait while the executor is idle. -/
  busy : (serialQueue s).Busy

variable {leases : FMap Ref Entry} {q : SerialQueue Ref Attempt} {token : Ref} {entry : Entry}

/-! ## The agreement of one lease -/

theorem MirrorsAt.congr {leases' : FMap Ref Entry} (h : MirrorsAt leases q token)
    (hfetch : leases'.fetch token = leases.fetch token) : MirrorsAt leases' q token := by
  refine ⟨?_, ?_, ?_⟩ <;> rw [hfetch]
  · exact h.active
  · exact h.queued
  · exact h.releasing

theorem Mirrors.jobless_of_none (h : Mirrors leases q) (hnone : leases.fetch token = none)
    (attempt : Attempt) : (token, attempt) ∉ q.jobs := by
  rw [SerialQueue.mem_jobs]
  rintro (hrun | hwait)
  · obtain ⟨entry, hentry, -⟩ := ((h.mirror token).releasing attempt).mp hrun
    rw [hnone] at hentry
    cases hentry
  · obtain ⟨entry, hentry, -⟩ := ((h.mirror token).queued attempt).mp hwait
    rw [hnone] at hentry
    cases hentry

/-- A lease that is neither queued nor releasing has no job. -/
theorem Mirrors.jobless (h : Mirrors leases q) (hentry : leases.fetch token = some entry)
    (hqueued : ∀ generation, entry.status ≠ .releaseQueued generation)
    (hreleasing : ∀ generation, entry.status ≠ .releasing generation) (attempt : Attempt) :
    (token, attempt) ∉ q.jobs := by
  rw [SerialQueue.mem_jobs]
  rintro (hrun | hwait)
  · obtain ⟨entry', hentry', hstatus, -⟩ := ((h.mirror token).releasing attempt).mp hrun
    rw [hentry] at hentry'
    cases hentry'
    exact hreleasing attempt.1 hstatus
  · obtain ⟨entry', hentry', hstatus, -⟩ := ((h.mirror token).queued attempt).mp hwait
    rw [hentry] at hentry'
    cases hentry'
    exact hqueued attempt.1 hstatus

/-! ## Setting one lease aside and putting it back -/

theorem Mirrors.except (h : Mirrors leases q)
    (hjobless : ∀ attempt, (token, attempt) ∉ q.jobs) : MirrorsExcept token leases q :=
  ⟨h.exclusive, fun other _ => h.mirror other, hjobless⟩

theorem Mirrors.except_active (h : Mirrors leases q) (hentry : leases.fetch token = some entry)
    (hactive : entry.status = .active) : MirrorsExcept token leases q :=
  h.except (h.jobless hentry (by simp [hactive]) (by simp [hactive]))

theorem Mirrors.except_failed (h : Mirrors leases q) (hentry : leases.fetch token = some entry)
    {reason : ReleaseError} (hfailed : entry.status = .releaseFailed reason) :
    MirrorsExcept token leases q :=
  h.except (h.jobless hentry (by simp [hfailed]) (by simp [hfailed]))

theorem MirrorsExcept.congr {leases' : FMap Ref Entry} (h : MirrorsExcept token leases q)
    (hfetch : ∀ other, other ≠ token → leases'.fetch other = leases.fetch other) :
    MirrorsExcept token leases' q :=
  ⟨h.exclusive, fun other hne => (h.mirror other hne).congr (hfetch other hne), h.jobless⟩

/-- Putting back a lease that waits for nothing. -/
theorem MirrorsExcept.restore {leases' : FMap Ref Entry} (h : MirrorsExcept token leases q)
    (hfetch : ∀ other, other ≠ token → leases'.fetch other = leases.fetch other)
    (hactive : ∀ entry, leases'.fetch token = some entry →
      (entry.status = .active ↔ entry.holders.Nonempty))
    (hqueued : ∀ entry generation, leases'.fetch token = some entry →
      entry.status ≠ .releaseQueued generation)
    (hreleasing : ∀ entry generation, leases'.fetch token = some entry →
      entry.status ≠ .releasing generation) :
    Mirrors leases' q := by
  refine ⟨h.exclusive, fun other => ?_⟩
  by_cases hother : other = token
  · subst hother
    refine ⟨hactive, fun attempt => ⟨fun hwait => ?_, ?_⟩, fun attempt => ⟨fun hrun => ?_, ?_⟩⟩
    · exact absurd (SerialQueue.mem_jobs.mpr (.inr hwait)) (h.jobless attempt)
    · rintro ⟨entry, hentry, hstatus, -⟩
      exact absurd hstatus (hqueued entry attempt.1 hentry)
    · exact absurd (SerialQueue.mem_jobs.mpr (.inl hrun)) (h.jobless attempt)
    · rintro ⟨entry, hentry, hstatus, -⟩
      exact absurd hstatus (hreleasing entry attempt.1 hentry)
  · exact (h.mirror other hother).congr (hfetch other hother)

/-- Putting back an active lease with a holder. -/
theorem MirrorsExcept.put_active (h : MirrorsExcept token leases q)
    (hactive : entry.status = .active)
    (hholders : entry.holders.Nonempty) : Mirrors (leases.put token entry) q := by
  refine h.restore (fun other hne => by simp [hne]) ?_ ?_ ?_
  · intro entry' hentry'
    rw [FMap.fetch_put, if_pos rfl] at hentry'
    cases hentry'
    exact ⟨fun _ => hholders, fun _ => hactive⟩
  · intro entry' generation hentry'
    rw [FMap.fetch_put, if_pos rfl] at hentry'
    cases hentry'
    simp [hactive]
  · intro entry' generation hentry'
    rw [FMap.fetch_put, if_pos rfl] at hentry'
    cases hentry'
    simp [hactive]

/-- Putting back a lease whose release failed. -/
theorem MirrorsExcept.put_failed (h : MirrorsExcept token leases q) (reason : ReleaseError)
    (hfailed : entry.status = .releaseFailed reason) (hholders : entry.holders = ∅) :
    Mirrors (leases.put token entry) q := by
  refine h.restore (fun other hne => by simp [hne]) ?_ ?_ ?_
  · intro entry' hentry'
    rw [FMap.fetch_put, if_pos rfl] at hentry'
    cases hentry'
    simp [hfailed, hholders]
  · intro entry' generation hentry'
    rw [FMap.fetch_put, if_pos rfl] at hentry'
    cases hentry'
    simp [hfailed]
  · intro entry' generation hentry'
    rw [FMap.fetch_put, if_pos rfl] at hentry'
    cases hentry'
    simp [hfailed]

/-- Forgetting the lease. -/
theorem MirrorsExcept.delete (h : MirrorsExcept token leases q) :
    Mirrors (leases.delete token) q := by
  refine h.restore (fun other hne => by simp [hne]) ?_ ?_ ?_ <;> simp

/-- An update of a lease that keeps its status and whether it has a holder. -/
theorem Mirrors.touch (h : Mirrors leases q) {entry' : Entry}
    (hentry : leases.fetch token = some entry) (hstatus : entry'.status = entry.status)
    (hholders : entry'.holders = entry.holders)
    (htoken : entry'.backendToken = entry.backendToken) :
    Mirrors (leases.put token entry') q := by
  refine ⟨h.exclusive, fun other => ?_⟩
  by_cases hother : other = token
  · subst hother
    have hm := h.mirror other
    refine ⟨?_, fun attempt => ?_, fun attempt => ?_⟩
    · intro entry'' hentry''
      rw [FMap.fetch_put, if_pos rfl] at hentry''
      cases hentry''
      rw [hstatus, hholders]
      exact hm.active entry hentry
    · rw [hm.queued attempt]
      simp [hentry, hstatus, htoken]
    · rw [hm.releasing attempt]
      simp [hentry, hstatus, htoken]
  · exact (h.mirror other).congr (by simp [hother])

/-! ## The queue's operations -/

/-- Queueing the lease that was set aside. -/
theorem MirrorsExcept.enqueue (h : MirrorsExcept token leases q) {generation : Ref}
    (hstatus : entry.status = .releaseQueued generation) (hholders : entry.holders = ∅) :
    Mirrors (leases.put token entry) (q.enqueue token (generation, entry.backendToken)) := by
  refine ⟨h.exclusive.enqueue h.jobless _, fun other => ?_⟩
  by_cases hother : other = token
  · subst hother
    refine ⟨?_, fun g => ?_, fun g => ?_⟩
    · intro entry' hentry'
      rw [FMap.fetch_put, if_pos rfl] at hentry'
      cases hentry'
      simp [hstatus, hholders]
    · have hold : (other, g) ∉ q.waiting := fun hwait =>
        h.jobless g (SerialQueue.mem_jobs.mpr (.inr hwait))
      simp [SerialQueue.enqueue, hold, hstatus, eq_comm, Prod.ext_iff]
    · have hrun : q.running ≠ some (other, g) := fun hrun =>
        h.jobless g (SerialQueue.mem_jobs.mpr (.inl hrun))
      simp [SerialQueue.enqueue, hrun, hstatus]
  · have hm := h.mirror other hother
    refine ⟨?_, fun g => ?_, fun g => ?_⟩
    · simpa [hother] using hm.active
    · have := hm.queued g
      simp only [SerialQueue.enqueue, List.mem_append, List.mem_singleton, Prod.mk.injEq, hother,
        false_and, or_false, FMap.fetch_put, if_false]
      exact this
    · have := hm.releasing g
      simpa [SerialQueue.enqueue, hother] using this

/-- The oldest waiting job and its lease. -/
theorem Mirrors.front (h : Mirrors leases q) {attempt : Attempt} {rest : List (Ref × Attempt)}
    (hline : q.waiting = (token, attempt) :: rest) (hentry : leases.fetch token = some entry) :
    entry.status = .releaseQueued attempt.1 ∧ entry.backendToken = attempt.2 := by
  obtain ⟨entry', hentry', hqueued⟩ :=
    ((h.mirror token).queued attempt).mp (by rw [hline]; exact List.mem_cons_self ..)
  rw [hentry] at hentry'
  cases hentry'
  exact hqueued

/-- A lease that waits for its release or is being released has no holder. -/
theorem Mirrors.no_holders (h : Mirrors leases q) (hentry : leases.fetch token = some entry)
    (hinactive : entry.status ≠ .active) : entry.holders = ∅ := by
  rw [← Finset.not_nonempty_iff_eq_empty, ← (h.mirror token).active entry hentry]
  exact hinactive

/-- The running job is for the token of its lease. -/
theorem Mirrors.running_token (h : Mirrors leases q) {attempt : Attempt}
    (hrun : q.running = some (token, attempt)) (hentry : leases.fetch token = some entry) :
    entry.backendToken = attempt.2 := by
  obtain ⟨entry', hentry', -, htoken⟩ := ((h.mirror token).releasing attempt).mp hrun
  rw [hentry] at hentry'
  cases hentry'
  exact htoken

/-- Starting the oldest waiting job. -/
theorem Mirrors.start (h : Mirrors leases q) {attempt : Attempt} {rest : List (Ref × Attempt)}
    (hidle : q.running = none) (hline : q.waiting = (token, attempt) :: rest)
    (hentry : leases.fetch token = some entry) :
    Mirrors (leases.put token { entry with status := .releasing attempt.1 })
      ⟨some (token, attempt), rest⟩ := by
  have hexclusive : (⟨some (token, attempt), rest⟩ : SerialQueue Ref Attempt).Exclusive := by
    unfold SerialQueue.Exclusive
    rw [SerialQueue.jobs_start hidle hline]
    exact h.exclusive
  obtain ⟨hstatus, htoken⟩ := h.front hline hentry
  have hholders : entry.holders = ∅ := h.no_holders hentry (by simp [hstatus])
  refine ⟨hexclusive, fun other => ?_⟩
  by_cases hother : other = token
  · subst hother
    refine ⟨?_, fun g => ?_, fun g => ?_⟩
    · intro entry' hentry'
      rw [FMap.fetch_put, if_pos rfl] at hentry'
      cases hentry'
      simpa using hholders
    · have hnot : (other, g) ∉ rest := hexclusive.not_waiting rfl
      simp [hnot]
    · simp [eq_comm, Prod.ext_iff, htoken]
  · have hm := h.mirror other
    refine ⟨?_, fun g => ?_, fun g => ?_⟩
    · simpa [hother] using hm.active
    · have := hm.queued g
      rw [hline] at this
      simpa [hother] using this
    · have := hm.releasing g
      rw [hidle] at this
      simp only [reduceCtorEq, false_iff] at this
      simpa [hother, Ne.symm hother] using this

/-- The running job is done; its lease is set aside. -/
theorem Mirrors.finish (h : Mirrors leases q) {attempt : Attempt}
    (hrun : q.running = some (token, attempt)) : MirrorsExcept token leases q.finish := by
  refine ⟨h.exclusive.finish, fun other hother => ?_, fun g => ?_⟩
  · have hm := h.mirror other
    refine ⟨hm.active, hm.queued,
      fun g => ⟨fun hf => by simp [SerialQueue.finish] at hf, fun he => ?_⟩⟩
    have := (hm.releasing g).mpr he
    rw [hrun] at this
    exact absurd (congrArg Prod.fst (Option.some.inj this)).symm hother
  · simpa [SerialQueue.jobs, SerialQueue.finish] using h.exclusive.not_waiting hrun

/-! ## The callbacks keep the coupling -/

variable {env : Env} {s s' : State}

/-- The coupling speaks of the leases, the queue and the job only. -/
theorem Coupled.congr (h : Coupled s) (hleases : s'.leases = s.leases)
    (hqueue : s'.releaseQueue = s.releaseQueue) (hjob : s'.releaseJob = s.releaseJob) :
    Coupled s' := by
  have hq : serialQueue s' = serialQueue s := by rw [serialQueue, hqueue, hjob, serialQueue]
  exact ⟨by rw [hleases, hq]; exact h.mirrors, by rw [hq]; exact h.busy⟩

theorem Blank.coupled (h : Blank s) : Coupled s := by
  have hq : serialQueue s = ⟨none, []⟩ := by simp [serialQueue, h.releaseJob, h.releaseQueue]
  refine ⟨⟨by simp [hq, SerialQueue.Exclusive, SerialQueue.jobs], fun token => ?_⟩,
    fun _ => by rw [hq]⟩
  rw [h.leases, hq]
  exact ⟨by simp, by simp, by simp⟩

/-- A dispatch restores the busy executor. -/
theorem Mirrors.dispatch (h : Mirrors s.leases (serialQueue s))
    (hdispatch : dispatchNextRelease env s = some s') : Coupled s' := by
  rcases dispatchNextRelease_cases hdispatch with
    ⟨rfl, hbusy⟩ | ⟨job, rest, entry, hjob, hqueue, hentry, rfl⟩
  · refine ⟨h, fun hidle => ?_⟩
    have hnone : s'.releaseJob = none := by simpa [serialQueue] using hidle
    simp [serialQueue, hbusy hnone]
  · refine ⟨?_, fun hidle => by simp [serialQueue] at hidle⟩
    exact h.start (by simp [serialQueue, hjob]) (by rw [serialQueue, hqueue]; rfl) hentry

theorem serialQueue_enqueueRelease (s : State) (isRetry : Bool) (waiter : Option Waiter)
    (sent : List Signal) :
    serialQueue (s.enqueueRelease env token entry isRetry waiter sent) =
      (serialQueue s).enqueue token (env.generation, entry.backendToken) := by
  simp [serialQueue, State.enqueueRelease, releaseJobOf, SerialQueue.enqueue, Job.attempted]

/-- Queueing the release of the lease that was set aside. -/
theorem MirrorsExcept.enqueueRelease (env : Env) (h : MirrorsExcept token s.leases (serialQueue s))
    (hholders : entry.holders = ∅) (isRetry : Bool) (waiter : Option Waiter) (sent : List Signal) :
    Mirrors (s.enqueueRelease env token entry isRetry waiter sent).leases
      (serialQueue (s.enqueueRelease env token entry isRetry waiter sent)) := by
  have hstatus : (entry.queued env.generation).status = .releaseQueued env.generation := rfl
  rw [serialQueue_enqueueRelease]
  exact h.enqueue hstatus hholders

theorem releaseEntry_coupled {isRetry : Bool} {waiter : Option Waiter}
    (h : MirrorsExcept token s.leases (serialQueue s)) (hholders : entry.holders = ∅)
    (hrelease : releaseEntry env token entry s isRetry waiter = some s') : Coupled s' := by
  obtain ⟨sent, -, heq⟩ := releaseEntry_eq env token entry s isRetry waiter
  rw [heq] at hrelease
  exact (h.enqueueRelease env hholders isRetry waiter sent).dispatch hrelease

theorem stopOrContinue_live (h : (stopOrContinueAfterRelease env s).live? = some s') : s' = s := by
  unfold stopOrContinueAfterRelease at h
  split at h
  · cases h
  · exact (Option.some.inj h).symm

/-- Removing a holder of an active lease. -/
theorem removeHolder_coupled {entry₀ : Entry} {holder : Ref}
    (hlive : (removeHolder env token holder entry s).live? = some s') (h : Coupled s)
    (hentry : s.leases.fetch token = some entry₀) (hactive : entry₀.status = .active)
    (hstatus : entry.status = .active) : Coupled s' := by
  have hexcept := h.mirrors.except_active hentry hactive
  unfold removeHolder at hlive
  split at hlive
  · simp only at hlive
    split at hlive
    · next hlast =>
        split at hlive
        · next s₁ hs₁ =>
            obtain rfl := stopOrContinue_live hlive
            exact releaseEntry_coupled (s := { s with activeHolders := s.activeHolders - 1 })
              hexcept (Finset.card_eq_zero.mp hlast) hs₁
        · cases hlive
    · next hmore =>
        cases hlive
        refine ⟨?_, h.busy⟩
        exact hexcept.put_active hstatus (Finset.card_pos.mp (Nat.pos_of_ne_zero hmore))
  · cases hlive
    exact h.congr rfl rfl rfl

theorem serialQueue_running {job : RunningJob} (h : s.releaseJob = some job) :
    (serialQueue s).running = some job.attempted := by
  simp [serialQueue, h]

/-- A failed job leaves its lease failed. -/
theorem finishError_mirrors {job : RunningJob} {reason : ReleaseError} {durationNs : Nat}
    (h : Coupled s) {attempt : Attempt} (hentry : s.leases.fetch token = some entry)
    (hstatus : entry.status = .releasing attempt.1)
    (hrun : (serialQueue s).running = some (token, attempt)) :
    Mirrors (finishError env token entry job reason (countFinished job durationNs s)).leases
      (serialQueue (finishError env token entry job reason (countFinished job durationNs s))) := by
  obtain ⟨counters, hcount⟩ := countFinished_eq job durationNs s
  obtain ⟨counters', timers, waiters, monitors, sent, -, heq⟩ := finishError_eq env token entry
    job reason { s with releaseJob := none, counters := counters }
  rw [hcount, heq]
  have hempty : entry.holders = ∅ := h.mirrors.no_holders hentry (by simp [hstatus])
  exact (h.mirrors.finish hrun).put_failed reason rfl hempty

/-- A job that succeeded takes its lease with it. -/
theorem finishOk_mirrors {job : RunningJob} {value : Term} {durationNs : Nat}
    (h : Coupled s) {attempt : Attempt}
    (hrun : (serialQueue s).running = some (token, attempt)) :
    Mirrors (finishOk token entry job value durationNs (countFinished job durationNs s)).leases
      (serialQueue (finishOk token entry job value durationNs
        (countFinished job durationNs s))) := by
  obtain ⟨counters, hcount⟩ := countFinished_eq job durationNs s
  obtain ⟨sent, -, heq⟩ := finishOk_eq token entry job value durationNs
    { s with releaseJob := none, counters := counters }
  rw [hcount, heq]
  exact (h.mirrors.finish hrun).delete

/-- **Every callback keeps the coupling**, when the token it makes is new. -/
theorem Coupled.step {event : Event} {out : Outcome} (h : Coupled s)
    (hfresh : s.leases.fetch env.token = none) (ht : Transition env s event out)
    (hlive : out.live? = some s') : Coupled s' := by
  cases ht with
  | raise => cases hlive
  | quiet _ keys _ _ hout =>
      rw [hlive] at hout
      cases hout
      exact h.congr rfl rfl rfl
  | reserve _ _ =>
      cases hlive
      exact h.congr rfl rfl rfl
  | issue _ _ _ _ hout =>
      rw [hlive] at hout
      cases hout
      refine ⟨?_, h.busy⟩
      exact (h.mirrors.except (h.mirrors.jobless_of_none hfresh)).put_active rfl
        (Finset.singleton_nonempty _)
  | reject _ _ _ _ hrelease =>
      cases hlive
      refine releaseEntry_coupled ?_ rfl hrelease
      exact (h.mirrors.except (h.mirrors.jobless_of_none hfresh)).congr
        (fun other hne => by
          simp [State.rejected, dropProtocolMonitor, State.send, State.consumed, hne])
  | corrupt _ => cases hlive
  | cancelReservation =>
      rw [stopOrContinue_live hlive]
      unfold removeIssueReservation
      split <;> exact h.congr rfl rfl rfl
  | reservationDown _ _ _ =>
      rw [stopOrContinue_live hlive]
      unfold removeIssueReservation
      split <;> exact h.congr rfl rfl rfl
  | confirmIssue hentry _ _ _ =>
      cases hlive
      exact ⟨h.mirrors.touch hentry rfl rfl rfl, h.busy⟩
  | cancelIssue _ hentry hactive _ _ hrelease =>
      rw [stopOrContinue_live hlive]
      exact releaseEntry_coupled (s := s.revoked _ _) (h.mirrors.except_active hentry hactive) rfl
        hrelease
  | issueDown _ _ hentry hactive _ _ hrelease =>
      rw [stopOrContinue_live hlive]
      exact releaseEntry_coupled (s := (s.unwatched _).revoked _ _)
        (h.mirrors.except_active hentry hactive) rfl hrelease
  | retain _ hentry hactive _ _ _ hout =>
      rw [hlive] at hout
      cases hout
      refine ⟨?_, h.busy⟩
      exact (h.mirrors.except_active hentry hactive).put_active hactive (Finset.insert_nonempty _ _)
  | confirmRetain hentry _ _ _ =>
      cases hlive
      exact ⟨h.mirrors.touch hentry rfl rfl rfl, h.busy⟩
  | cancelRetain hentry hactive _ _ =>
      exact removeHolder_coupled hlive (h.congr rfl rfl rfl) hentry hactive hactive
  | retainDown _ _ hentry hactive =>
      exact removeHolder_coupled hlive (h.congr rfl rfl rfl) hentry hactive hactive
  | staleDown _ _ _ =>
      cases hlive
      exact h.congr rfl rfl rfl
  | retire _ hentry hactive _ _ hput =>
      obtain ⟨tombstones, order, counters, heq⟩ := putReleaseTombstone_frame hput
      subst heq
      exact removeHolder_coupled hlive (h.congr rfl rfl rfl) hentry hactive hactive
  | lateRelease _ =>
      cases hlive
      exact h.congr rfl rfl rfl
  | drainFailed _ =>
      cases hlive
      obtain ⟨waiters, monitors, sent, -, heq⟩ := replyDrainWaiter_frame _ _ (s.waiting env _ _)
      rw [heq]
      exact h.congr rfl rfl rfl
  | drainDone _ _ => cases hlive
  | drainWaits _ _ =>
      cases hlive
      exact h.congr rfl rfl rfl
  | dropWaiter _ =>
      cases hlive
      obtain ⟨waiters, monitors, sent, -, heq⟩ := removeDrainWaiter_frame _ s
      rw [heq]
      exact h.congr rfl rfl rfl
  | finish _ _ hjob htoken hgeneration hentry hstatus hsettle hdispatch =>
      rw [stopOrContinue_live hlive]
      subst htoken hgeneration
      have hrun := serialQueue_running hjob
      rcases settle_cases hsettle with ⟨value, -, rfl⟩ | ⟨reason, -, rfl⟩
      · exact (finishOk_mirrors h hrun).dispatch hdispatch
      · exact (finishError_mirrors h hentry hstatus hrun).dispatch hdispatch
  | executorDown _ _ hjob hentry hstatus hdispatch =>
      rw [stopOrContinue_live hlive]
      have h' : Coupled (startReleaseExecutor env (bump [.releaseExecutorRestarts] s)) :=
        h.congr rfl rfl rfl
      exact (finishError_mirrors h' hentry hstatus (serialQueue_running hjob)).dispatch hdispatch
  | executorDownLost _ _ _ _ =>
      cases hlive
      exact h.congr rfl rfl rfl
  | executorDownIdle _ _ _ hdispatch =>
      cases hlive
      have h' : Coupled (startReleaseExecutor env (bump [.releaseExecutorRestarts] s)) :=
        h.congr rfl rfl rfl
      exact h'.mirrors.dispatch hdispatch
  | retryCall hentry hfailed hrelease =>
      cases hlive
      obtain ⟨sent, -, heq⟩ := cancelRetryTimer_eq _ s
      refine releaseEntry_coupled ?_ ?_ hrelease
      · rw [heq]
        exact h.mirrors.except_failed hentry hfailed
      · exact h.mirrors.no_holders hentry (by simp [hfailed])
  | retryRefused _ =>
      cases hlive
      obtain ⟨sent, -, heq⟩ := cancelRetryTimer_eq _ s
      rw [heq]
      exact h.congr rfl rfl rfl
  | retryTimer _ _ hentry hfailed hrelease =>
      cases hlive
      refine releaseEntry_coupled (s := { s with retryTimers := s.retryTimers.delete _ })
        (h.mirrors.except_failed hentry hfailed) ?_ hrelease
      exact h.mirrors.no_holders hentry (by simp [hfailed])
  | staleTimer _ _ _ =>
      cases hlive
      exact h.congr rfl rfl rfl
  | close =>
      unfold handleClose at hlive
      simp only at hlive
      split at hlive
      · cases hlive
      · cases hlive
        exact h.congr rfl rfl rfl
  | producerDown _ =>
      unfold beginProducerDrain at hlive
      simp only at hlive
      split at hlive
      · cases hlive
      · cases hlive
        exact h.congr rfl rfl rfl

end VideoInterop.LeaseOwner
