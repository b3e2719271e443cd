import Mathlib.Logic.Relation
import VideoInterop.LeaseOwner.Coupling
import VideoInterop.LeaseOwner.Histories

/-!
# The roster of the leases

A lease entry is kept beside two indices that are updated by hand: the age
index, and the table of armed retry timers.  `Roster.Edit` lists what a callback
does to the three together, one lease at a time: an active lease changes, a
lease is accepted, queued, executed, and released or not.  A failure arms a
timer in the same edit, when the policy has an attempt left.

`Roster.Sound` is what every edit keeps: the age index lists the leases, the
timers are those of the failed leases that may be tried again, and a lease that
left the active state has nothing pending.
-/

namespace VideoInterop.LeaseOwner

/-- Does the policy retry by itself after so many attempts? -/
def RetryPolicy.retries : RetryPolicy → Nat → Bool
  | .manual, _ => false
  | .exponential _ _ maxAttempts, attempts => retryAvailable? attempts maxAttempts

/-- What the owner keeps of the ages and retries of its leases. -/
structure Roster where
  /-- When a failed release is tried again. -/
  retry : RetryPolicy
  /-- The leases by token. -/
  leases : FMap Ref Entry
  /-- The leases by age. -/
  ages : Finset (Int × Ref)
  /-- The armed retry timers. -/
  timers : FMap Ref RetryTimer

/-- The roster of an owner's state. -/
def State.roster (s : State) : Roster := ⟨s.releaseRetry, s.leases, s.leaseAgeIndex, s.retryTimers⟩

/-- The timers once `schedule_retry` saw a failed lease. -/
def scheduled (env : Env) (retry : RetryPolicy) (token : Ref) (attempts : Nat)
    (timers : FMap Ref RetryTimer) : FMap Ref RetryTimer :=
  if retry.retries attempts then
    timers.put token
      { timerRef := env.timerRef, generation := env.retryGeneration, attempt := attempts + 1 }
  else timers

namespace Roster

/-- The lease waits for a release or for another attempt at one. -/
def Releasable (entry : Entry) : Prop :=
  entry.status = .active ∨ ∃ reason, entry.status = .releaseFailed reason

/-- The release of the lease failed. -/
def Failed (leases : FMap Ref Entry) (token : Ref) : Prop :=
  ∃ entry reason, leases.fetch token = some entry ∧ entry.status = .releaseFailed reason

/-- One change of the roster. -/
inductive Edit (env : Env) (R : Roster) : Roster → Prop where
  | touch {token : Ref} {entry entry' : Entry} (hentry : R.leases.fetch token = some entry)
      (hactive : entry.status = .active) (hactive' : entry'.status = .active)
      (hissued : entry'.issuedAtNs = entry.issuedAtNs) :
      Edit env R { R with leases := R.leases.put token entry' }
  | accept {entry : Entry} (hfresh : R.leases.fetch env.token = none)
      (hactive : entry.status = .active) :
      Edit env R
        { R with
          leases := R.leases.put env.token entry
          ages := insert (entry.issuedAtNs, env.token) R.ages }
  | queue {token : Ref} {entry₀ entry : Entry} (hentry : R.leases.fetch token = some entry₀)
      (hstatus : Releasable entry₀) (hissued : entry.issuedAtNs = entry₀.issuedAtNs) :
      Edit env R
        { R with
          leases := R.leases.put token (entry.queued env.generation)
          timers := R.timers.delete token }
  | execute {token generation : Ref} {entry : Entry} (hentry : R.leases.fetch token = some entry)
      (hqueued : entry.status = .releaseQueued generation) :
      Edit env R
        { R with leases := R.leases.put token { entry with status := .releasing generation } }
  | succeed {token generation : Ref} {entry : Entry} (hentry : R.leases.fetch token = some entry)
      (hreleasing : entry.status = .releasing generation) :
      Edit env R
        { R with
          leases := R.leases.delete token
          ages := R.ages.erase (entry.issuedAtNs, token) }
  | fail {token generation : Ref} {reason : ReleaseError} {entry : Entry}
      (hentry : R.leases.fetch token = some entry)
      (hreleasing : entry.status = .releasing generation) :
      Edit env R
        { R with
          leases := R.leases.put token { entry with status := .releaseFailed reason }
          timers := scheduled env R.retry token entry.releaseAttempts R.timers }
  /-- A timer is dropped whose lease did not fail: there is none. -/
  | disarm {token} (hunfailed : ¬Failed R.leases token) :
      Edit env R { R with timers := R.timers.delete token }

/-- Some edits, one after another. -/
abbrev Edits (env : Env) : Roster → Roster → Prop := Relation.ReflTransGen (Edit env)

/-- The index of ages and the timers are right. -/
structure Sound (R : Roster) : Prop where
  /-- The index has the leases and nothing else. -/
  ages : ∀ issuedAtNs token, (issuedAtNs, token) ∈ R.ages ↔
    ∃ entry, R.leases.fetch token = some entry ∧ entry.issuedAtNs = issuedAtNs
  /-- A timer is armed for a failed lease that may be tried again, and no other. -/
  timers : ∀ token, (∃ timer, R.timers.fetch token = some timer) ↔
    ∃ entry reason, R.leases.fetch token = some entry ∧ entry.status = .releaseFailed reason ∧
      R.retry.retries entry.releaseAttempts = true
  /-- A lease that is not active waits for nobody. -/
  settled : ∀ token entry, R.leases.fetch token = some entry → entry.status ≠ .active →
    entry.pendingIssue = none ∧ entry.pendingRetains = ∅

variable {env : Env} {R R' : Roster} {token : Ref} {entry entry₀ : Entry}

/-! ## One edit -/

/-- The age index after a lease got another entry of the same age. -/
theorem Sound.ages_put (h : Sound R) (hentry : R.leases.fetch token = some entry₀)
    (hissued : entry.issuedAtNs = entry₀.issuedAtNs) (issuedAtNs : Int) (other : Ref) :
    (issuedAtNs, other) ∈ R.ages ↔
      ∃ e, (R.leases.put token entry).fetch other = some e ∧ e.issuedAtNs = issuedAtNs := by
  rw [h.ages]
  cases decEq other token with
  | isTrue heq =>
      subst heq
      simp [hentry, hissued]
  | isFalse hne => simp [hne]

/-- A lease that did not fail has no timer. -/
theorem Sound.no_timer (h : Sound R) (hentry : ¬Failed R.leases token) :
    R.timers.fetch token = none := by
  cases htimer : R.timers.fetch token with
  | none => rfl
  | some timer =>
      obtain ⟨entry, reason, hfetch, hfailed, -⟩ := (h.timers token).mp ⟨timer, htimer⟩
      exact absurd ⟨entry, reason, hfetch, hfailed⟩ hentry

theorem not_failed (hentry : R.leases.fetch token = some entry)
    (hstatus : ∀ reason, entry.status ≠ .releaseFailed reason) : ¬Failed R.leases token := by
  rintro ⟨entry', reason, hentry', hfailed⟩
  rw [hentry] at hentry'
  cases hentry'
  exact hstatus reason hfailed

/-- The timers and the leases of all tokens but one are as before, and the one
keeps the rule. -/
theorem Sound.timers_at (h : Sound R) (token : Ref) {leases : FMap Ref Entry}
    {timers : FMap Ref RetryTimer}
    (hleases : ∀ other, other ≠ token → leases.fetch other = R.leases.fetch other)
    (htimers : ∀ other, other ≠ token → timers.fetch other = R.timers.fetch other)
    (htoken : (∃ timer, timers.fetch token = some timer) ↔
      ∃ entry reason, leases.fetch token = some entry ∧ entry.status = .releaseFailed reason ∧
        R.retry.retries entry.releaseAttempts = true) (other : Ref) :
    (∃ timer, timers.fetch other = some timer) ↔
      ∃ entry reason, leases.fetch other = some entry ∧ entry.status = .releaseFailed reason ∧
        R.retry.retries entry.releaseAttempts = true := by
  cases decEq other token with
  | isTrue heq => exact heq ▸ htoken
  | isFalse hne => rw [hleases other hne, htimers other hne, h.timers]

/-- What a lease has pending after it got another entry. -/
theorem Sound.settled_put (h : Sound R)
    (hsettled : entry.status ≠ .active → entry.pendingIssue = none ∧ entry.pendingRetains = ∅)
    (other : Ref) (e : Entry) (he : (R.leases.put token entry).fetch other = some e)
    (hinactive : e.status ≠ .active) : e.pendingIssue = none ∧ e.pendingRetains = ∅ := by
  rw [FMap.fetch_put] at he
  split at he
  · cases he
    exact hsettled hinactive
  · exact h.settled other e he hinactive

/-- **An edit keeps the roster sound.** -/
theorem Edit.sound (hedit : Edit env R R') (h : Sound R) : Sound R' := by
  cases hedit with
  | @touch token entry entry' hentry hactive hactive' hissued =>
      refine ⟨h.ages_put hentry hissued, h.timers_at token ?_ ?_ ?_, ?_⟩
      · intro other hne
        simp [hne]
      · intro other hne
        rfl
      · rw [h.no_timer (not_failed hentry (by simp [hactive]))]
        simp [hactive']
      · exact h.settled_put fun hinactive => absurd hactive' hinactive
  | @accept entry hfresh hactive =>
      refine ⟨?_, h.timers_at env.token ?_ ?_ ?_, ?_⟩
      · intro issuedAtNs other
        simp only [Finset.mem_insert, Prod.mk.injEq, h.ages]
        cases decEq other env.token with
        | isTrue heq =>
            subst heq
            simp [hfresh, eq_comm]
        | isFalse hne => simp [hne]
      · intro other hne
        simp [hne]
      · intro other hne
        rfl
      · have hnone : ¬Failed R.leases env.token := by
          rintro ⟨entry', reason, hentry', -⟩
          rw [hfresh] at hentry'
          cases hentry'
        rw [h.no_timer hnone]
        simp [hactive]
      · exact h.settled_put fun hinactive => absurd hactive hinactive
  | @queue token entry₀ entry hentry hstatus hissued =>
      refine ⟨h.ages_put hentry hissued, h.timers_at token ?_ ?_ ?_, ?_⟩
      · intro other hne
        simp [hne]
      · intro other hne
        simp [hne]
      · simp [Entry.queued]
      · exact h.settled_put fun _ => ⟨rfl, rfl⟩
  | @execute token generation entry hentry hqueued =>
      refine ⟨h.ages_put hentry rfl, h.timers_at token ?_ ?_ ?_, ?_⟩
      · intro other hne
        simp [hne]
      · intro other hne
        rfl
      · rw [h.no_timer (not_failed hentry (by simp [hqueued]))]
        simp
      · exact h.settled_put fun _ => h.settled token entry hentry (by simp [hqueued])
  | @succeed token generation entry hentry hreleasing =>
      refine ⟨?_, h.timers_at token ?_ ?_ ?_, ?_⟩
      · intro issuedAtNs other
        simp only [Finset.mem_erase, ne_eq, Prod.mk.injEq, h.ages]
        cases decEq other token with
        | isTrue heq =>
            subst heq
            simp [hentry, eq_comm]
        | isFalse hne => simp [hne]
      · intro other hne
        simp [hne]
      · intro other hne
        rfl
      · rw [h.no_timer (not_failed hentry (by simp [hreleasing]))]
        simp
      · intro other e he hinactive
        rw [FMap.fetch_delete] at he
        split at he
        · cases he
        · exact h.settled other e he hinactive
  | @fail token generation reason entry hentry hreleasing =>
      have hunarmed := h.no_timer (not_failed hentry (by simp [hreleasing]))
      refine ⟨h.ages_put hentry rfl, h.timers_at token ?_ ?_ ?_, ?_⟩
      · intro other hne
        simp [hne]
      · intro other hne
        unfold scheduled
        split
        · simp [hne]
        · rfl
      · unfold scheduled
        cases hretries : R.retry.retries entry.releaseAttempts with
        | true => simp [hretries]
        | false => simp [hretries, hunarmed]
      · exact h.settled_put fun _ => h.settled token entry hentry (by simp [hreleasing])
  | disarm hunfailed =>
      rw [FMap.delete_of_none (h.no_timer hunfailed)]
      exact h

theorem Edits.sound (hedits : Edits env R R') (h : Sound R) : Sound R' := by
  induction hedits with
  | refl => exact h
  | tail _ hedit ih => exact hedit.sound ih

/-- A timer that was not there was armed just now. -/
theorem Edit.timer (hedit : Edit env R R') {timer : RetryTimer}
    (htimer : R'.timers.fetch token = some timer) :
    R.timers.fetch token = some timer ∨ timer.generation = env.retryGeneration := by
  have hdelete {t : Ref} (h : (R.timers.delete t).fetch token = some timer) :
      R.timers.fetch token = some timer := by
    rw [FMap.fetch_delete] at h
    split at h
    · cases h
    · exact h
  cases hedit with
  | touch => exact .inl htimer
  | accept => exact .inl htimer
  | queue => exact .inl (hdelete htimer)
  | execute => exact .inl htimer
  | succeed => exact .inl htimer
  | fail =>
      simp only [scheduled] at htimer
      split at htimer
      · rw [FMap.fetch_put] at htimer
        split at htimer
        · cases htimer
          exact .inr rfl
        · exact .inl htimer
      · exact .inl htimer
  | disarm => exact .inl (hdelete htimer)

theorem Edits.timer (hedits : Edits env R R') {timer : RetryTimer}
    (htimer : R'.timers.fetch token = some timer) :
    R.timers.fetch token = some timer ∨ timer.generation = env.retryGeneration := by
  induction hedits with
  | refl => exact .inl htimer
  | tail _ hedit ih =>
      rcases hedit.timer htimer with h | h
      · exact ih h
      · exact .inr h

end Roster

/-! ## The callbacks edit the roster -/

open Roster (Edits)

variable {env : Env} {s s' : State} {token : Ref} {entry entry₀ : Entry}

/-- The oldest job starts, and its lease is the one that was queued with it. -/
theorem dispatch_edits (h : Mirrors s.leases (serialQueue s))
    (hdispatch : dispatchNextRelease env s = some s') : Edits env s.roster s'.roster := by
  rcases dispatchNextRelease_cases hdispatch with
    ⟨rfl, -⟩ | ⟨job, rest, entry, hjob, hqueue, hentry, rfl⟩
  · exact .refl
  · have hline : (serialQueue s).waiting = job.attempted :: rest.map Job.attempted := by
      rw [serialQueue, hqueue]
      rfl
    have hqueued : entry.status = .releaseQueued job.generation := (h.front hline hentry).1
    exact .single (.execute hentry hqueued)

/-- A lease is queued, from a roster that may still have the timer of it. -/
theorem releaseEntry_edits {isRetry : Bool} {waiter : Option Waiter} {R : Roster}
    (hrelease : releaseEntry env token entry s isRetry waiter = some s')
    (hR : { R with timers := R.timers.delete token } =
      { s.roster with timers := s.retryTimers.delete token })
    (h : MirrorsExcept token s.leases (serialQueue s)) (hholders : entry.holders = ∅)
    (hentry : s.leases.fetch token = some entry₀) (hstatus : Roster.Releasable entry₀)
    (hissued : entry.issuedAtNs = entry₀.issuedAtNs) : Edits env R s'.roster := by
  obtain ⟨sent, -, heq⟩ := releaseEntry_eq env token entry s isRetry waiter
  rw [heq] at hrelease
  have hleases : R.leases = s.leases := congrArg Roster.leases hR
  have hqueue : Roster.Edit env R
      (s.enqueueRelease env token entry isRetry waiter sent).roster := by
    have hedit : Roster.Edit env R
        { R with
          leases := R.leases.put token (entry.queued env.generation)
          timers := R.timers.delete token } :=
      .queue (hleases ▸ hentry) hstatus hissued
    have heq : (s.enqueueRelease env token entry isRetry waiter sent).roster =
        { ({ R with timers := R.timers.delete token } : Roster) with
          leases := R.leases.put token (entry.queued env.generation) } := by
      rw [hR, hleases]
      rfl
    rw [heq]
    exact hedit
  exact .head hqueue
    (dispatch_edits (h.enqueueRelease env hholders isRetry waiter sent) hrelease)

/-- A holder of an active lease leaves. -/
theorem removeHolder_edits {holder : Ref}
    (hlive : (removeHolder env token holder entry s).live? = some s') (h : Coupled s)
    (hentry : s.leases.fetch token = some entry₀) (hactive : entry₀.status = .active)
    (hstatus : entry.status = .active) (hissued : entry.issuedAtNs = entry₀.issuedAtNs) :
    Edits env s.roster s'.roster := by
  unfold removeHolder at hlive
  split at hlive
  · simp only at hlive
    split at hlive
    · next hlast =>
        split at hlive
        · next s₁ hs₁ =>
            obtain rfl := stopOrContinue_live hlive
            exact releaseEntry_edits hs₁ rfl (h.mirrors.except_active hentry hactive)
              (Finset.card_eq_zero.mp hlast) hentry (.inl hactive) hissued
        · cases hlive
    · cases hlive
      exact .single (.touch hentry hactive hstatus hissued)
  · cases hlive
    exact .refl

/-- A failed lease is queued again, its timer cancelled before. -/
theorem retry_edits {isRetry : Bool} {waiter : Option Waiter} {reason : ReleaseError}
    (sent : List Signal) (h : Coupled s) (hentry : s.leases.fetch token = some entry)
    (hfailed : entry.status = .releaseFailed reason)
    (hrelease : releaseEntry env token entry
      { s with retryTimers := s.retryTimers.delete token, sent := sent } isRetry waiter = some s') :
    Edits env s.roster s'.roster := by
  have htwice : (s.retryTimers.delete token).delete token = s.retryTimers.delete token :=
    FMap.delete_of_none (by simp)
  refine releaseEntry_edits hrelease ?_ (h.mirrors.except_failed hentry hfailed)
    (h.mirrors.no_holders hentry (by simp [hfailed])) hentry (.inr ⟨reason, hfailed⟩) rfl
  simp only [State.roster, htwice]

theorem scheduleRetry_timers (env : Env) (token : Ref) (entry : Entry) (s : State) :
    (scheduleRetry env token entry s).retryTimers =
      scheduled env s.releaseRetry token entry.releaseAttempts s.retryTimers := by
  unfold scheduleRetry scheduled
  cases s.releaseRetry with
  | manual => rfl
  | exponential initialMs maxMs maxAttempts =>
      cases hretry : retryAvailable? entry.releaseAttempts maxAttempts <;>
        simp [RetryPolicy.retries, hretry]

theorem finishError_roster (env : Env) (token : Ref) (entry : Entry) (job : RunningJob)
    (reason : ReleaseError) (s : State) :
    (finishError env token entry job reason s).roster =
      { s.roster with
        leases := s.leases.put token { entry with status := .releaseFailed reason }
        timers := scheduled env s.releaseRetry token entry.releaseAttempts s.retryTimers } := by
  unfold finishError
  simp only
  obtain ⟨sent₁, -, h₁⟩ := notify_frame (.leaseReleaseFailed token entry.metadata reason)
    ({ s with leases := s.leases.put token { entry with status := .releaseFailed reason }
      }.updateCounter .releaseFailures 1)
  rw [h₁]
  obtain ⟨sent₂, -, h₂⟩ := replyReleaseWaiter_frame job.waiter (.error reason) token _
  rw [h₂]
  obtain ⟨waiters, monitors, sent₃, -, h₃⟩ := replyAllDrainWaiters_frame env
    (.error (.releaseFailed token reason)) _
  rw [h₃]
  obtain ⟨timers, sent₄, -, h₄⟩ := scheduleRetry_frame env token
    { entry with status := .releaseFailed reason } _
  have htimers := congrArg State.retryTimers h₄
  rw [scheduleRetry_timers] at htimers
  rw [h₄]
  simp only [State.roster, Roster.mk.injEq]
  exact ⟨rfl, rfl, rfl, htimers.symm⟩

/-- The state in which a job's lease is released or failed. -/
def Settles (env : Env) (token : Ref) (entry : Entry) (job : RunningJob) (s s' : State) : Prop :=
  (∃ value durationNs, s' = finishOk token entry job value durationNs
    (countFinished job durationNs s)) ∨
    ∃ reason durationNs, s' = finishError env token entry job reason
      (countFinished job durationNs s)

theorem Settles.of_settle {job : RunningJob} {result : Finish} {durationNs : Nat}
    (h : settle env token entry job result durationNs (countFinished job durationNs s) = some s') :
    Settles env token entry job s s' := by
  rcases settle_cases h with ⟨value, -, rfl⟩ | ⟨reason, -, rfl⟩
  · exact .inl ⟨value, durationNs, rfl⟩
  · exact .inr ⟨reason, durationNs, rfl⟩

/-- A job of a releasing lease ends, and the next one starts. -/
theorem Settles.edits {job : RunningJob} {generation : Ref} {s₁ : State}
    (hsettles : Settles env token entry job s s₁) (h : Coupled s) (hjob : s.releaseJob = some job)
    (htoken : job.token = token) (hgeneration : job.generation = generation)
    (hentry : s.leases.fetch token = some entry) (hstatus : entry.status = .releasing generation)
    (hdispatch : dispatchNextRelease env s₁ = some s') : Edits env s.roster s'.roster := by
  subst htoken hgeneration
  have hrun := serialQueue_running hjob
  rcases hsettles with ⟨value, durationNs, rfl⟩ | ⟨reason, durationNs, rfl⟩
  · obtain ⟨counters, hcount⟩ := countFinished_eq job durationNs s
    have hdispatched := dispatch_edits (finishOk_mirrors h hrun) hdispatch
    obtain ⟨sent, -, heq⟩ := finishOk_eq job.token entry job value durationNs
      { s with releaseJob := none, counters := counters }
    rw [hcount, heq] at hdispatched
    exact .head (.succeed hentry hstatus) hdispatched
  · obtain ⟨counters, hcount⟩ := countFinished_eq job durationNs s
    have hdispatched := dispatch_edits (finishError_mirrors h hentry hstatus hrun) hdispatch
    rw [hcount, finishError_roster] at hdispatched
    exact .head (.fail hentry hstatus) hdispatched

/-- **Every callback edits the roster**, when the token it makes is new. -/
theorem Transition.edits {event : Event} {out : Outcome} (h : Coupled s)
    (hfresh : s.leases.fetch env.token = none) (ht : Transition env s event out)
    (hlive : out.live? = some s') : Edits env s.roster s'.roster := by
  cases ht with
  | raise => cases hlive
  | quiet _ keys _ _ hout =>
      rw [hlive] at hout
      cases hout
      exact .refl
  | reserve _ _ =>
      cases hlive
      exact .refl
  | issue _ _ _ _ hout =>
      rw [hlive] at hout
      cases hout
      exact .single (.accept hfresh rfl)
  | @reject _ backendToken _ requestRef r _ _ _ _ _ _ hrelease =>
      cases hlive
      have haccept : Roster.Edit env s.roster
          (s.rejected env backendToken r.metadata requestRef r.monitorRef).roster :=
        have hactive : (rejectedEntry env backendToken r.metadata).status = .active := rfl
        .accept hfresh hactive
      refine .head haccept (releaseEntry_edits hrelease rfl ?_ rfl
        (FMap.fetch_put_self _ _ _) (.inl rfl) rfl)
      exact (h.mirrors.except (h.mirrors.jobless_of_none hfresh)).congr
        (fun other hne => by
          simp [State.rejected, dropProtocolMonitor, State.send, State.consumed, hne])
  | corrupt _ => cases hlive
  | cancelReservation =>
      rw [stopOrContinue_live hlive]
      unfold removeIssueReservation
      split <;> exact .refl
  | reservationDown _ _ _ =>
      rw [stopOrContinue_live hlive]
      unfold removeIssueReservation
      split <;> exact .refl
  | confirmIssue hentry hactive _ _ =>
      cases hlive
      exact .single (.touch hentry hactive hactive rfl)
  | cancelIssue _ hentry hactive _ _ hrelease =>
      rw [stopOrContinue_live hlive]
      exact releaseEntry_edits hrelease (R := s.roster) rfl
        (h.mirrors.except_active hentry hactive) rfl hentry (.inl hactive) rfl
  | issueDown _ _ hentry hactive _ _ hrelease =>
      rw [stopOrContinue_live hlive]
      exact releaseEntry_edits hrelease (R := s.roster) rfl
        (h.mirrors.except_active hentry hactive) rfl hentry (.inl hactive) rfl
  | retain _ hentry hactive _ _ _ hout =>
      rw [hlive] at hout
      cases hout
      exact .single (.touch hentry hactive hactive rfl)
  | confirmRetain hentry hactive _ _ =>
      cases hlive
      exact .single (.touch hentry hactive hactive rfl)
  | cancelRetain hentry hactive _ _ =>
      have hedits := removeHolder_edits hlive (h.congr rfl rfl rfl) hentry hactive hactive rfl
      exact hedits
  | retainDown _ _ hentry hactive =>
      have hedits := removeHolder_edits hlive (h.congr rfl rfl rfl) hentry hactive hactive rfl
      exact hedits
  | staleDown _ _ _ =>
      cases hlive
      exact .refl
  | retire _ hentry hactive _ _ hput =>
      obtain ⟨tombstones, order, counters, heq⟩ := putReleaseTombstone_frame hput
      subst heq
      have hedits := removeHolder_edits hlive (h.congr rfl rfl rfl) hentry hactive hactive rfl
      exact hedits
  | lateRelease _ =>
      cases hlive
      exact .refl
  | drainFailed _ =>
      cases hlive
      obtain ⟨waiters, monitors, sent, -, heq⟩ := replyDrainWaiter_frame _ _ (s.waiting env _ _)
      rw [heq]
      exact .refl
  | drainDone _ _ => cases hlive
  | drainWaits _ _ =>
      cases hlive
      exact .refl
  | dropWaiter _ =>
      cases hlive
      obtain ⟨waiters, monitors, sent, -, heq⟩ := removeDrainWaiter_frame _ s
      rw [heq]
      exact .refl
  | finish _ _ hjob htoken hgeneration hentry hstatus hsettle hdispatch =>
      rw [stopOrContinue_live hlive]
      exact (Settles.of_settle hsettle).edits h hjob htoken hgeneration hentry hstatus hdispatch
  | executorDown _ _ hjob hentry hstatus hdispatch =>
      rw [stopOrContinue_live hlive]
      exact Settles.edits (s := startReleaseExecutor env (bump [.releaseExecutorRestarts] s))
        (.inr ⟨_, _, rfl⟩) (h.congr rfl rfl rfl) hjob rfl rfl hentry hstatus hdispatch
  | executorDownLost _ _ _ _ =>
      cases hlive
      exact .refl
  | executorDownIdle _ _ _ hdispatch =>
      cases hlive
      exact dispatch_edits (s := startReleaseExecutor env (bump [.releaseExecutorRestarts] s))
        h.mirrors hdispatch
  | retryCall hentry hfailed hrelease =>
      cases hlive
      obtain ⟨sent, -, heq⟩ := cancelRetryTimer_eq _ s
      rw [heq] at hrelease
      exact retry_edits _ h hentry hfailed hrelease
  | retryRefused hentry =>
      cases hlive
      obtain ⟨sent, -, heq⟩ := cancelRetryTimer_eq _ s
      rw [heq]
      refine .single (.disarm fun hdue => ?_)
      obtain ⟨entry, reason, hfetch, hfailed⟩ := hdue
      exact hentry entry reason hfetch hfailed
  | retryTimer _ _ hentry hfailed hrelease =>
      cases hlive
      exact retry_edits s.sent h hentry hfailed hrelease
  | staleTimer _ _ hentry =>
      cases hlive
      refine .single (.disarm fun hdue => ?_)
      obtain ⟨entry, reason, hfetch, hfailed⟩ := hdue
      exact hentry entry reason hfetch hfailed
  | close =>
      unfold handleClose at hlive
      simp only at hlive
      split at hlive
      · cases hlive
      · cases hlive
        exact .refl
  | producerDown _ =>
      unfold beginProducerDrain at hlive
      simp only at hlive
      split at hlive
      · cases hlive
      · cases hlive
        exact .refl

/-! ## Runs -/

variable {o o' : Owner} {i : Input} {visits : List (Visit Owner Input)}

theorem init_roster {self : Pid} {opts : Options} (h : init env self opts = .ok s) :
    s.roster = ⟨s.releaseRetry, ∅, ∅, ∅⟩ := by
  unfold init at h
  split at h
  · cases h
  · split at h
    · cases h
    · split at h
      · cases h
      · cases h
        rfl

theorem Owner.Step.edits (hs : o.Sound) (hst : Owner.Step o i o') :
    Edits i.env o.state.roster o'.state.roster := by
  have hcoupled : Coupled { o.state with sent := [] } := hs.coupled.congr rfl rfl rfl
  have hedits := (outcome_transition o.state i).edits hcoupled (hs.fresh hst) hst.live
  exact hedits

/-- The roster of every reachable owner is sound. -/
theorem Owner.Run.roster (h : Owner.Run visits o) : o.state.roster.Sound := by
  refine h.history (P := fun _ o => o.state.roster.Sound) ?_ ?_
  · rintro o ⟨env, self, opts, hinit, -⟩
    rw [init_roster hinit]
    exact ⟨by simp, by simp, by simp⟩
  · intro visits o i o' hrun ih hst
    exact (hst.edits hrun.sound).sound ih

end VideoInterop.LeaseOwner
