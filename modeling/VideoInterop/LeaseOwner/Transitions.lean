import VideoInterop.LeaseOwner.Frames

/-!
# Everything one callback can do

`Transition env s event out` lists the branches of the callbacks that end in a
different way, with the tests that lead to each.  `handle_transition` says the
list is complete.  A property of runs is proved by cases on it, and no proof
after this module unfolds a callback to find its branches again.

Where a callback ends in `release_entry`, `remove_holder` or `finish_release_job`
the constructor says so and the function keeps its own lemmas.
-/

namespace VideoInterop.LeaseOwner

/-! ## Names for the results -/

/-- Counters that count a message and nothing else. -/
def CounterKey.noise : CounterKey → Bool
  | .retainRequests | .retainCancellations | .duplicateReleases | .unclassifiedReleases
  | .malformedMessages => true
  | _ => false

/-- The counters with each key of the list counted once. -/
def countKeys (keys : List CounterKey) (counters : CounterKey → Nat) : CounterKey → Nat :=
  keys.foldl (fun counters key k => if k = key then counters k + 1 else counters k) counters

/-- Each key of the list counted once. -/
def bump (keys : List CounterKey) (s : State) : State :=
  { s with counters := countKeys keys s.counters }

/-- The state after an admitted reservation. -/
def State.reserved (env : Env) (metadata : Term) (replyTo : Pid) (requestRef : Ref) (s : State) :
    State :=
  { s with
    issueReservations := s.issueReservations.put requestRef
      { reservation := env.reservation
        replyTo := replyTo
        monitorRef := env.monitorRef
        metadata := metadata }
    protocolMonitors := s.protocolMonitors.put env.monitorRef (.reservation requestRef)
    sent := s.sent ++
      [.monitor replyTo env.monitorRef,
        .reply replyTo requestRef (.issueReserved (.ok env.reservation))] }

/-- The lease a commit hands out. -/
def issuedLease (env : Env) (guard : Option AbandonmentGuard) (s : State) : Lease where
  owner := s.self
  token := env.token
  holder := env.holder
  abandonmentGuard := guard

/-- The state once a commit has consumed its reservation. -/
def State.consumed (requestRef monitorRef : Ref) (s : State) : State :=
  { s with
    issueReservations := s.issueReservations.delete requestRef
    protocolMonitors := s.protocolMonitors.put monitorRef (.issuePending requestRef) }

/-- The state after a commit that got its guard. -/
def State.issued (env : Env) (backendToken metadata : Term) (replyTo : Pid)
    (requestRef monitorRef : Ref) (guard : Option AbandonmentGuard) (s : State) : State :=
  let s₁ : State :=
    { s.consumed requestRef monitorRef with
      leases := s.leases.put env.token
        (issuedEntry env backendToken metadata requestRef monitorRef)
      pendingIssues := s.pendingIssues.put requestRef env.token
      protocolMonitors :=
        (s.consumed requestRef monitorRef).protocolMonitors.put monitorRef
          (.issue env.token requestRef)
      activeHolders := s.activeHolders + 1
      leaseAgeIndex := insert (env.clock .issuedAt, env.token) s.leaseAgeIndex
      sent := s.sent ++ [.reply replyTo requestRef (.issued (.ok (issuedLease env guard s)))] }
  bump [.issuedLeases, .issuedHolders] s₁

/-- The entry of a commit whose guard could not be made. -/
def rejectedEntry (env : Env) (backendToken metadata : Term) : Entry where
  backendToken := backendToken
  holders := ∅
  issuedAtNs := env.clock .issuedAt
  metadata := metadata
  rootHolder := none
  pendingIssue := none
  pendingRetains := ∅
  releaseAttempts := 0
  status := .active

/-- The state a rejected commit releases its entry from. -/
def State.rejected (env : Env) (backendToken metadata : Term) (requestRef monitorRef : Ref)
    (s : State) : State :=
  let s₁ := dropProtocolMonitor (s.consumed requestRef monitorRef) monitorRef
  { s₁ with
    leases := s₁.leases.put env.token (rejectedEntry env backendToken metadata)
    leaseAgeIndex := insert (env.clock .issuedAt, env.token) s₁.leaseAgeIndex }

/-- The state after an admitted retain. -/
def State.retained (env : Env) (token childHolder : Ref) (replyTo : Pid) (requestRef : Ref)
    (entry : Entry) (guard : Option AbandonmentGuard) (s : State) : State :=
  let s₁ : State :=
    { s with
      leases := s.leases.put token
        { entry with
          holders := insert childHolder entry.holders
          pendingRetains := entry.pendingRetains.put childHolder (env.monitorRef, requestRef) }
      protocolMonitors := s.protocolMonitors.put env.monitorRef (.retain token childHolder)
      activeHolders := s.activeHolders + 1
      sent := s.sent ++
        [.monitor replyTo env.monitorRef, .reply replyTo requestRef (.retained (.ok guard))] }
  bump [.retainRequests, .issuedHolders] s₁

/-- The message that retires a holder, and what it counts as. -/
def Classification.message (token holder : Ref) : Classification → Message
  | .explicit => .release token holder
  | .abandoned => .abandoned token holder

/-- The counter of a kind of retirement. -/
def Classification.counter : Classification → CounterKey
  | .explicit => .explicitReleases
  | .abandoned => .abandonments

/-- The state a new drain waiter leaves. -/
def State.waiting (env : Env) (replyTo : Pid) (requestRef : Ref) (s : State) : State :=
  { s.send (.monitor replyTo env.monitorRef) with
    mode := .draining
    drainWaiters := s.drainWaiters.put requestRef (replyTo, env.monitorRef)
    drainMonitors := s.drainMonitors.put env.monitorRef requestRef }

/-- The state in which the lease's pending issue is revoked. -/
def State.revoked (entry : Entry) (sent : List Signal) (s : State) : State :=
  { s with
    pendingIssues := issuesWithout entry s.pendingIssues
    protocolMonitors := monitorsWithoutIssue entry s.protocolMonitors
    activeHolders := s.activeHolders - entry.holders.card
    sent := sent }

/-- The state once a monitor of the issue and retain protocols has fired. -/
def State.unwatched (monitorRef : Ref) (s : State) : State :=
  { s with protocolMonitors := s.protocolMonitors.delete monitorRef }

/-! ## What an event accepts and ends -/

/-- How a release attempt ends. -/
inductive Ending where
  | succeeded (value : Term)
  | failed (reason : ReleaseError)

/-- How the job ends, unless the result is none. -/
def Finish.ending : Finish → Option Ending
  | .ok value => some (.succeeded value)
  | .error reason => some (.failed reason)
  | .invalid => none

/-- The end of a release attempt. -/
structure Closing where
  /-- The executor that had the job. -/
  executor : Pid
  /-- The lease. -/
  token : Ref
  /-- The attempt. -/
  generation : Ref
  /-- The token it was to give back. -/
  backendToken : Term
  /-- How it ended. -/
  ending : Ending

/-- The tests of `finish_release_job/5`. -/
def closing (s : State) (token generation : Ref) (result : Finish) : Option Closing :=
  match s.releaseJob, s.leases.fetch token with
  | some job, some entry =>
      if job.token = token ∧ job.generation = generation ∧
          entry.status.releasing? = some generation then
        result.ending.map (Closing.mk s.releaseExecutor token generation entry.backendToken)
      else none
  | _, _ => none

/-- The release attempt an event ends: the running one, by a result of its
executor or by the death of that. -/
def endedBy (s : State) : Event → Option Closing
  | .info (.releaseResult executor token generation result _) =>
      if executor = s.releaseExecutor then closing s token generation result.finish else none
  | .info (.down (some monitorRef) reason) =>
      if some monitorRef ≠ s.producerMonitor ∧ monitorRef = s.releaseExecutorMonitor then
        s.releaseJob.bind fun job =>
          closing s job.token job.generation (.error (.releaseExecutorDown reason))
      else none
  | _ => none

/-- The lease and the backend token of a commit that finds its reservation. -/
def acceptedBy (env : Env) (s : State) : Event → Option (Ref × Term)
  | .info (.commitIssue reservation backendToken replyTo requestRef) =>
      match s.issueReservations.fetch requestRef with
      | some r =>
          if r.reservation = reservation ∧ r.replyTo = replyTo then some (env.token, backendToken)
          else none
      | none => none
  | _ => none

/-- An event that neither accepts a token nor ends an attempt. -/
def Plain (env : Env) (s : State) (event : Event) : Prop :=
  acceptedBy env s event = none ∧ endedBy s event = none

theorem plain_down {env : Env} {s : State} {monitorRef : Ref} {reason : Term}
    (h : some monitorRef = s.producerMonitor ∨ monitorRef ≠ s.releaseExecutorMonitor) :
    Plain env s (.info (.down (some monitorRef) reason)) := by
  refine ⟨rfl, if_neg ?_⟩
  rintro ⟨hproducer, hexecutor⟩
  exact h.elim hproducer fun hne => hne hexecutor

theorem plain_producer {env : Env} {s : State} {event : Event}
    (h : event = .info (.exit s.producer) ∨
      ∃ reason, event = .info (.down s.producerMonitor reason)) : Plain env s event := by
  rcases h with rfl | ⟨reason, rfl⟩
  · exact ⟨rfl, rfl⟩
  · cases hm : s.producerMonitor with
    | none => exact ⟨rfl, rfl⟩
    | some monitorRef => exact plain_down (.inl hm.symm)

/-! ## The transitions -/

/-- All that the handling of an event can do. -/
inductive Transition (env : Env) (s : State) : Event → Outcome → Prop where
  | raise {event} : Transition env s event .raise
  /-- Only counters of messages, and signals that grant nothing. -/
  | quiet {event out sent} (hplain : Plain env s event) (keys : List CounterKey)
      (hkeys : ∀ key ∈ keys, key.noise = true)
      (hsent : Silent s.sent sent) (hout : out.live? = some { bump keys s with sent := sent }) :
      Transition env s event out
  | reserve {metadata replyTo requestRef} (hmode : s.mode ≠ .draining)
      (hcapacity : capacityAvailable? s = true) :
      Transition env s (.info (.reserveIssue metadata replyTo requestRef))
        (.noreply (s.reserved env metadata replyTo requestRef))
  | issue {reservation backendToken replyTo requestRef r guard out}
      (hr : s.issueReservations.fetch requestRef = some r)
      (hreservation : r.reservation = reservation)
      (hreply : r.replyTo = replyTo)
      (hguard : createAbandonmentGuard env s.abandonmentGuardFactory = .ok guard)
      (hout : out.live? =
        some (s.issued env backendToken r.metadata replyTo requestRef r.monitorRef guard)) :
      Transition env s (.info (.commitIssue reservation backendToken replyTo requestRef)) out
  | reject {reservation backendToken replyTo requestRef r reason s'}
      (hr : s.issueReservations.fetch requestRef = some r)
      (hreservation : r.reservation = reservation)
      (hreply : r.replyTo = replyTo)
      (hguard : createAbandonmentGuard env s.abandonmentGuardFactory = .error reason)
      (hrelease :
        releaseEntry env env.token (rejectedEntry env backendToken r.metadata)
          (s.rejected env backendToken r.metadata requestRef r.monitorRef) false
          (some (.issue replyTo requestRef (.abandonmentGuardFactoryFailed reason))) = some s') :
      Transition env s (.info (.commitIssue reservation backendToken replyTo requestRef))
        (.noreply s')
  | corrupt {reservation backendToken replyTo requestRef}
      (hr : ∀ r, s.issueReservations.fetch requestRef = some r →
        ¬(r.reservation = reservation ∧ r.replyTo = replyTo)) :
      Transition env s (.info (.commitIssue reservation backendToken replyTo requestRef))
        (.stop (.invalidOrExpiredIssueReservation reservation)
          (notify (.protocolCorruption reservation) s))
  | cancelReservation {requestRef} :
      Transition env s (.info (.cancelIssueReservation requestRef))
        (stopOrContinueAfterRelease env (removeIssueReservation requestRef s))
  | reservationDown {monitorRef reason target requestRef}
      (hplain : Plain env s (.info (.down (some monitorRef) reason)))
      (hm : s.protocolMonitors.fetch monitorRef = some target)
      (htarget : target = .reservation requestRef ∨ target = .issuePending requestRef) :
      Transition env s (.info (.down (some monitorRef) reason))
        (stopOrContinueAfterRelease env
          (removeIssueReservation requestRef (s.unwatched monitorRef) false))
  | confirmIssue {token requestRef entry monitorRef sent}
      (hentry : s.leases.fetch token = some entry) (hactive : entry.status = .active)
      (hpending : entry.pendingIssue = some (monitorRef, requestRef)) (hsent : Silent s.sent sent) :
      Transition env s (.info (.confirmIssue token requestRef))
        (.noreply
          { s with
            leases := s.leases.put token { entry with pendingIssue := none }
            pendingIssues := s.pendingIssues.delete requestRef
            protocolMonitors := s.protocolMonitors.delete monitorRef
            sent := sent })
  | cancelIssue {requestRef token entry pending sent s'}
      (hissue : s.pendingIssues.fetch requestRef = some token)
      (hentry : s.leases.fetch token = some entry) (hactive : entry.status = .active)
      (hpending : entry.pendingIssue = some pending) (hsent : Silent s.sent sent)
      (hrelease : releaseEntry env token { entry with pendingIssue := none, holders := ∅ }
        (s.revoked entry sent) = some s') :
      Transition env s (.info (.cancelIssue requestRef)) (stopOrContinueAfterRelease env s')
  | issueDown {monitorRef reason token requestRef entry pending sent s'}
      (hplain : Plain env s (.info (.down (some monitorRef) reason)))
      (hm : s.protocolMonitors.fetch monitorRef = some (.issue token requestRef))
      (hentry : s.leases.fetch token = some entry) (hactive : entry.status = .active)
      (hpending : entry.pendingIssue = some pending) (hsent : Silent s.sent sent)
      (hrelease : releaseEntry env token { entry with pendingIssue := none, holders := ∅ }
        ((s.unwatched monitorRef).revoked entry sent) = some s') :
      Transition env s (.info (.down (some monitorRef) reason)) (stopOrContinueAfterRelease env s')
  | retain {token parentHolder childHolder replyTo requestRef entry guard out}
      (hmode : s.mode ≠ .draining)
      (hentry : s.leases.fetch token = some entry) (hactive : entry.status = .active)
      (hparent : parentHolder ∈ entry.holders) (hchild : childHolder ∉ entry.holders)
      (hguard : createAbandonmentGuard env s.abandonmentGuardFactory = .ok guard)
      (hout : out.live? =
        some (s.retained env token childHolder replyTo requestRef entry guard)) :
      Transition env s (.info (.retain token parentHolder childHolder replyTo requestRef)) out
  | confirmRetain {token childHolder requestRef entry monitorRef sent}
      (hentry : s.leases.fetch token = some entry) (hactive : entry.status = .active)
      (hpending : entry.pendingRetains.fetch childHolder = some (monitorRef, requestRef))
      (hsent : Silent s.sent sent) :
      Transition env s (.info (.confirmRetain token childHolder requestRef))
        (.noreply
          { s with
            leases := s.leases.put token
              { entry with pendingRetains := entry.pendingRetains.delete childHolder }
            protocolMonitors := s.protocolMonitors.delete monitorRef
            sent := sent })
  | cancelRetain {token childHolder entry sent}
      (hentry : s.leases.fetch token = some entry) (hactive : entry.status = .active)
      (hroot : some childHolder ≠ entry.rootHolder) (hsent : Silent s.sent sent) :
      Transition env s (.info (.cancelRetain token childHolder))
        (removeHolder env token childHolder
          { entry with pendingRetains := entry.pendingRetains.delete childHolder }
          { bump [.retainCancellations] s with
            protocolMonitors := monitorsWithoutRetain childHolder entry s.protocolMonitors
            sent := sent })
  | retainDown {monitorRef reason token childHolder entry}
      (hplain : Plain env s (.info (.down (some monitorRef) reason)))
      (hm : s.protocolMonitors.fetch monitorRef = some (.retain token childHolder))
      (hentry : s.leases.fetch token = some entry) (hactive : entry.status = .active) :
      Transition env s (.info (.down (some monitorRef) reason))
        (removeHolder env token childHolder
          { entry with pendingRetains := entry.pendingRetains.delete childHolder }
          (s.unwatched monitorRef))
  /-- A monitor fired whose issue or retain is no longer pending. -/
  | staleDown {monitorRef reason target}
      (hplain : Plain env s (.info (.down (some monitorRef) reason)))
      (hm : s.protocolMonitors.fetch monitorRef = some target)
      (htarget : (∃ token requestRef, target = .issue token requestRef ∧
          ∀ entry, s.leases.fetch token = some entry → entry.status = .active →
            entry.pendingIssue = none) ∨
        ∃ token childHolder, target = .retain token childHolder ∧
          ∀ entry, s.leases.fetch token = some entry → entry.status ≠ .active) :
      Transition env s (.info (.down (some monitorRef) reason)) (.noreply (s.unwatched monitorRef))
  | retire {classification : Classification} {token holder entry sent s₁}
      (htombstone : classification = .explicit →
        s.releaseTombstones.fetch (token, holder) = none)
      (hentry : s.leases.fetch token = some entry) (hactive : entry.status = .active)
      (hholder : holder ∈ entry.holders) (hsent : Silent s.sent sent)
      (hput : putReleaseTombstone (token, holder) classification
        { bump [classification.counter] s with
          protocolMonitors := monitorsWithoutRetain holder entry s.protocolMonitors
          sent := sent } = some s₁) :
      Transition env s (.info (classification.message token holder))
        (removeHolder env token holder
          { entry with pendingRetains := entry.pendingRetains.delete holder } s₁)
  | lateRelease {token holder}
      (htombstone : s.releaseTombstones.fetch (token, holder) = some .abandoned) :
      Transition env s (.info (.release token holder))
        (.noreply
          { bump [.lateReleasesAfterAbandonment] s with
            releaseTombstones := s.releaseTombstones.put (token, holder) .explicit })
  | drainFailed {replyTo requestRef token reason}
      (hfailed : firstReleaseFailure env (s.waiting env replyTo requestRef) = some
        (token, reason)) :
      Transition env s (.info (.drain replyTo requestRef))
        (.noreply (replyDrainWaiter requestRef (.error (.releaseFailed token reason))
          (s.waiting env replyTo requestRef)))
  | drainDone {replyTo requestRef} (hleases : s.leases.size = 0)
      (hreservations : s.issueReservations.size = 0) :
      Transition env s (.info (.drain replyTo requestRef))
        (.stop .normal (completeDrain env (s.waiting env replyTo requestRef)))
  | drainWaits {replyTo requestRef}
      (hfailed : firstReleaseFailure env (s.waiting env replyTo requestRef) = none)
      (hbusy : ¬(s.leases.size = 0 ∧ s.issueReservations.size = 0)) :
      Transition env s (.info (.drain replyTo requestRef))
        (.noreply (s.waiting env replyTo requestRef))
  /-- By a cancellation, or because the waiter died. -/
  | dropWaiter {event requestRef} (hplain : Plain env s event) :
      Transition env s event (.noreply (removeDrainWaiter requestRef s))
  | finish {event executor token generation result durationNs job entry s₁ s'}
      (hevent : event = .info (.releaseResult executor token generation result durationNs))
      (hexecutor : executor = s.releaseExecutor)
      (hjob : s.releaseJob = some job) (htoken : job.token = token)
      (hgeneration : job.generation = generation) (hentry : s.leases.fetch token = some entry)
      (hstatus : entry.status = .releasing generation)
      (hsettle : settle env token entry job result.finish durationNs
        (countFinished job durationNs s) = some s₁)
      (hdispatch : dispatchNextRelease env s₁ = some s') :
      Transition env s event (stopOrContinueAfterRelease env s')
  | executorDown {monitorRef reason job entry s'}
      (hproducer : some monitorRef ≠ s.producerMonitor) (hm : monitorRef = s.releaseExecutorMonitor)
      (hjob : s.releaseJob = some job) (hentry : s.leases.fetch job.token = some entry)
      (hstatus : entry.status = .releasing job.generation)
      (hdispatch : dispatchNextRelease env
        (finishError env job.token entry job (.releaseExecutorDown reason)
          (countFinished job (releaseJobAgeNs env job).toNat
            (startReleaseExecutor env (bump [.releaseExecutorRestarts] s)))) = some s') :
      Transition env s (.info (.down (some monitorRef) reason)) (stopOrContinueAfterRelease env s')
  /-- The executor died and its job is not in the leases: unreachable. -/
  | executorDownLost {monitorRef reason job}
      (hproducer : some monitorRef ≠ s.producerMonitor) (hm : monitorRef = s.releaseExecutorMonitor)
      (hjob : s.releaseJob = some job)
      (hentry : ∀ entry, s.leases.fetch job.token = some entry →
        entry.status ≠ .releasing job.generation) :
      Transition env s (.info (.down (some monitorRef) reason))
        (.noreply (bump [.malformedMessages]
          (startReleaseExecutor env (bump [.releaseExecutorRestarts] s))))
  | executorDownIdle {monitorRef reason s'}
      (hproducer : some monitorRef ≠ s.producerMonitor) (hm : monitorRef = s.releaseExecutorMonitor)
      (hjob : s.releaseJob = none)
      (hdispatch : dispatchNextRelease env
        (startReleaseExecutor env (bump [.releaseExecutorRestarts] s)) = some s') :
      Transition env s (.info (.down (some monitorRef) reason)) (.noreply s')
  | retryCall {token caller entry reason s'} (hentry : s.leases.fetch token = some entry)
      (hfailed : entry.status = .releaseFailed reason)
      (hrelease : releaseEntry env token entry (cancelRetryTimer token s) true
        (some (.retry caller)) = some s') :
      Transition env s (.retry token caller) (.noreply s')
  | retryRefused {token caller reply}
      (hentry : ∀ entry reason, s.leases.fetch token = some entry →
        entry.status ≠ .releaseFailed reason) :
      Transition env s (.retry token caller) (.reply (.retryError reply) (cancelRetryTimer token s))
  | retryTimer {token generation timer entry reason s'}
      (htimer : s.retryTimers.fetch token = some timer)
      (hgeneration : timer.generation = generation)
      (hentry : s.leases.fetch token = some entry) (hfailed : entry.status = .releaseFailed reason)
      (hrelease : releaseEntry env token entry
        { s with retryTimers := s.retryTimers.delete token } true = some s') :
      Transition env s (.info (.retryRelease token generation)) (.noreply s')
  | staleTimer {token generation timer} (htimer : s.retryTimers.fetch token = some timer)
      (hgeneration : timer.generation = generation)
      (hentry : ∀ entry reason, s.leases.fetch token = some entry →
        entry.status ≠ .releaseFailed reason) :
      Transition env s (.info (.retryRelease token generation))
        (.noreply { s with retryTimers := s.retryTimers.delete token })
  | close : Transition env s .close (handleClose env s)
  | producerDown {event}
      (hevent : event = .info (.exit s.producer) ∨
        ∃ reason, event = .info (.down s.producerMonitor reason)) :
      Transition env s event (beginProducerDrain env s)

/-! ## The list is complete -/

variable {env : Env} {s : State}

/-- A callback that changes nothing but its signals. -/
theorem Transition.silent {event : Event} {out : Outcome} {sent : List Signal}
    (hsent : Silent s.sent sent) (hout : out.live? = some { s with sent := sent })
    (hplain : Plain env s event) : Transition env s event out :=
  .quiet hplain [] (by simp) hsent hout

/-- A callback that counts a message and may send quiet signals. -/
theorem Transition.counted {event : Event} {out : Outcome} (key : CounterKey) {sent : List Signal}
    (hkey : key.noise = true) (hsent : Silent s.sent sent)
    (hout : out.live? = some { s.updateCounter key 1 with sent := sent })
    (hplain : Plain env s event) : Transition env s event out :=
  .quiet hplain [key] (by simpa using hkey) hsent hout

theorem handleReserveIssue_transition (metadata : Term) (replyTo : Pid) (requestRef : Ref) :
    Transition env s (.info (.reserveIssue metadata replyTo requestRef))
      (handleReserveIssue env metadata replyTo requestRef s) := by
  unfold handleReserveIssue
  split
  · exact .silent ((Silent.refl _).snoc rfl) rfl ⟨rfl, rfl⟩
  · next hmode =>
      split
      · exact .silent ((Silent.refl _).snoc rfl) rfl ⟨rfl, rfl⟩
      · next hcapacity =>
          have h : Transition env s (.info (.reserveIssue metadata replyTo requestRef))
              (.noreply (s.reserved env metadata replyTo requestRef)) :=
            .reserve hmode (by simpa using hcapacity)
          simpa [State.reserved, State.send, replyIssueReservation] using h

theorem continueAfterGuardReply_live (guard : Option AbandonmentGuard) (s : State) :
    (continueAfterGuardReply guard s).live? = some s := by
  cases guard <;> rfl

theorem handleCommitIssue_transition (reservation : Ref) (backendToken : Term) (replyTo : Pid)
    (requestRef : Ref) :
    Transition env s (.info (.commitIssue reservation backendToken replyTo requestRef))
      (handleCommitIssue env reservation backendToken replyTo requestRef s) := by
  unfold handleCommitIssue
  split
  · next r hr =>
      split
      · next hmatch =>
          unfold commitIssue
          split
          · next guard hguard =>
              refine .issue hr hmatch.1 hmatch.2 hguard ?_
              rw [continueAfterGuardReply_live]
              rfl
          · next reason hguard =>
              unfold rejectIssue
              simp only
              split
              · next s' hs' => exact .reject hr hmatch.1 hmatch.2 hguard hs'
              · exact .raise
      · next hmatch =>
          refine .corrupt fun r' hr' => ?_
          rw [hr] at hr'
          cases hr'
          exact hmatch
  · next hr =>
      refine .corrupt fun r' hr' => ?_
      rw [hr] at hr'
      cases hr'

theorem handleConfirmIssue_transition (token requestRef : Ref) :
    Transition env s (.info (.confirmIssue token requestRef))
      (handleConfirmIssue token requestRef s) := by
  unfold handleConfirmIssue
  split
  · next entry hentry =>
      split
      · next monitorRef pendingRef hactive hpending =>
          split
          · next href =>
              subst href
              obtain ⟨sent, hsent, h⟩ := clearPendingIssue_eq entry s
              rw [h]
              simp only [issuesWithout, monitorsWithoutIssue, hpending]
              exact .confirmIssue hentry hactive hpending hsent
          · exact .silent (.refl _) rfl ⟨rfl, rfl⟩
      · exact .silent (.refl _) rfl ⟨rfl, rfl⟩
  · exact .silent (.refl _) rfl ⟨rfl, rfl⟩

/-- The branch in which `cancel_pending_issue` revokes the lease. -/
theorem cancelPendingIssue_eq (env : Env) {token : Ref} {entry : Entry} {pending : Ref × Ref}
    (hentry : s.leases.fetch token = some entry) (hactive : entry.status = .active)
    (hpending : entry.pendingIssue = some pending) :
    ∃ sent, Silent s.sent sent ∧
      cancelPendingIssue env token s =
        match releaseEntry env token { entry with pendingIssue := none, holders := ∅ }
            (s.revoked entry sent) with
        | some s' => stopOrContinueAfterRelease env s'
        | none => .raise := by
  obtain ⟨sent, hsent, h⟩ := clearPendingIssue_eq entry s
  refine ⟨sent, hsent, ?_⟩
  unfold cancelPendingIssue
  rw [hentry]
  simp only [hactive, hpending]
  rw [h]
  rfl

theorem cancelPendingIssue_miss {token : Ref}
    (hmiss : ∀ entry, s.leases.fetch token = some entry → entry.status = .active →
      entry.pendingIssue = none) :
    cancelPendingIssue env token s = .noreply s := by
  unfold cancelPendingIssue
  split
  · next entry hentry =>
      split
      · next hactive hpending => rw [hmiss entry hentry hactive] at hpending; cases hpending
      · rfl
  · rfl

/-- A lease is revocable when it is active and its issue pending. -/
theorem revocable_or_not (s : State) (token : Ref) :
    (∃ entry pending, s.leases.fetch token = some entry ∧ entry.status = .active ∧
        entry.pendingIssue = some pending) ∨
      ∀ entry, s.leases.fetch token = some entry → entry.status = .active →
        entry.pendingIssue = none := by
  by_cases h : ∀ entry, s.leases.fetch token = some entry → entry.status = .active →
      entry.pendingIssue = none
  · exact .inr h
  · push Not at h
    obtain ⟨entry, hentry, hactive, hpending⟩ := h
    obtain ⟨pending, hp⟩ := Option.ne_none_iff_exists'.mp hpending
    exact .inl ⟨entry, pending, hentry, hactive, hp⟩

theorem handleCancelIssue_transition (requestRef : Ref) :
    Transition env s (.info (.cancelIssue requestRef)) (handleCancelIssue env requestRef s) := by
  unfold handleCancelIssue
  split
  · next token hissue =>
      rcases revocable_or_not s token with ⟨entry, pending, hentry, hactive, hpending⟩ | hmiss
      · obtain ⟨sent, hsent, h⟩ := cancelPendingIssue_eq env hentry hactive hpending
        rw [h]
        split
        · next s' hs' => exact .cancelIssue hissue hentry hactive hpending hsent hs'
        · exact .raise
      · rw [cancelPendingIssue_miss hmiss]
        exact .silent (.refl _) rfl ⟨rfl, rfl⟩
  · exact .silent (.refl _) rfl ⟨rfl, rfl⟩

theorem handleRetain_transition (token parentHolder childHolder : Ref) (replyTo : Pid)
    (requestRef : Ref) :
    Transition env s (.info (.retain token parentHolder childHolder replyTo requestRef))
      (handleRetain env token parentHolder childHolder replyTo requestRef s) := by
  have refused : ∀ error, Transition env s
      (.info (.retain token parentHolder childHolder replyTo requestRef))
      (.noreply (replyRetain replyTo requestRef (.error error)
        (s.updateCounter .retainRequests 1))) := fun error =>
    .counted .retainRequests rfl ((Silent.refl _).snoc rfl) rfl ⟨rfl, rfl⟩
  unfold handleRetain
  simp only
  split
  · exact refused _
  · next hmode =>
      unfold retainHolder
      split
      · next entry hentry =>
          split
          · next hactive =>
              split
              · exact refused _
              · next hparent =>
                  split
                  · exact refused _
                  · next hchild =>
                      split
                      · next guard hguard =>
                          have hparent : parentHolder ∈ entry.holders := by simpa using hparent
                          refine .retain hmode hentry hactive hparent hchild hguard ?_
                          rw [continueAfterGuardReply_live]
                          simp [State.retained, State.send, replyRetain, bump, countKeys,
                            State.updateCounter]
                      · exact refused _
          · exact refused _
      · exact refused _

theorem handleConfirmRetain_transition (token childHolder requestRef : Ref) :
    Transition env s (.info (.confirmRetain token childHolder requestRef))
      (handleConfirmRetain token childHolder requestRef s) := by
  unfold handleConfirmRetain
  split
  · next entry hentry =>
      split
      · next monitorRef pendingRef hactive hpending =>
          split
          · next href =>
              subst href
              exact .confirmRetain hentry hactive hpending ((Silent.refl _).snoc rfl)
          · exact .silent (.refl _) rfl ⟨rfl, rfl⟩
      · exact .silent (.refl _) rfl ⟨rfl, rfl⟩
  · exact .silent (.refl _) rfl ⟨rfl, rfl⟩

theorem handleCancelRetain_transition (token childHolder : Ref) :
    Transition env s (.info (.cancelRetain token childHolder))
      (handleCancelRetain env token childHolder s) := by
  have ignored : Transition env s (.info (.cancelRetain token childHolder))
      (.noreply (s.updateCounter .retainCancellations 1)) :=
    .counted .retainCancellations rfl (.refl _) rfl ⟨rfl, rfl⟩
  unfold handleCancelRetain
  simp only
  split
  · next entry hentry =>
      split
      · next hactive =>
          split
          · next hroot =>
              obtain ⟨sent, hsent, h⟩ := clearPendingRetain_eq childHolder entry
                (s.updateCounter .retainCancellations 1)
              rw [h]
              exact .cancelRetain hentry hactive hroot hsent
          · exact ignored
      · exact ignored
  · exact ignored

/-- Releases and abandonments retire a holder in the same way. -/
theorem retire_transition (classification : Classification) {token holder : Ref} {entry : Entry}
    (htombstone : classification = .explicit → s.releaseTombstones.fetch (token, holder) = none)
    (hentry : s.leases.fetch token = some entry) (hactive : entry.status = .active)
    (hholder : holder ∈ entry.holders) :
    Transition env s (.info (classification.message token holder))
      (match putReleaseTombstone (token, holder) classification
          ((clearPendingRetain holder entry s).2.updateCounter classification.counter 1) with
      | some s₁ => removeHolder env token holder (clearPendingRetain holder entry s).1 s₁
      | none => .raise) := by
  obtain ⟨sent, hsent, h⟩ := clearPendingRetain_eq holder entry s
  rw [h]
  split
  · next s₁ hs₁ => exact .retire htombstone hentry hactive hholder hsent hs₁
  · exact .raise

theorem handleAbandoned_transition (token holder : Ref) :
    Transition env s (.info (.abandoned token holder)) (handleAbandoned env token holder s) := by
  unfold handleAbandoned
  split
  · next entry hentry =>
      split
      · next hactive =>
          split
          · next hholder =>
              exact retire_transition .abandoned (by simp) hentry hactive hholder
          · exact .silent (.refl _) rfl ⟨rfl, rfl⟩
      · exact .silent (.refl _) rfl ⟨rfl, rfl⟩
  · exact .silent (.refl _) rfl ⟨rfl, rfl⟩

theorem handleRelease_transition (token holder : Ref) :
    Transition env s (.info (.release token holder)) (handleRelease env token holder s) := by
  have unclassified : Transition env s (.info (.release token holder))
      (.noreply (s.updateCounter .unclassifiedReleases 1)) :=
    .counted .unclassifiedReleases rfl (.refl _) rfl ⟨rfl, rfl⟩
  unfold handleRelease
  split
  · next htombstone => exact .lateRelease htombstone
  · exact .counted .duplicateReleases rfl (.refl _) rfl ⟨rfl, rfl⟩
  · next htombstone =>
      split
      · next entry hentry =>
          split
          · next hactive =>
              split
              · next hholder =>
                  exact retire_transition .explicit (fun _ => htombstone) hentry hactive hholder
              · exact unclassified
          · exact unclassified
      · exact unclassified

theorem handleDrain_transition (replyTo : Pid) (requestRef : Ref) :
    Transition env s (.info (.drain replyTo requestRef))
      (handleDrain env replyTo requestRef s) := by
  unfold handleDrain
  simp only
  split
  · next token reason hfailed => exact .drainFailed hfailed
  · next hfailed =>
      split
      · next hempty => exact .drainDone hempty.1 hempty.2
      · next hbusy => exact .drainWaits hfailed hbusy

theorem Status.releasing?_eq {status : Status} {generation : Ref}
    (h : status.releasing? = some generation) : status = .releasing generation := by
  cases status with
  | releasing g => cases h; rfl
  | active => cases h
  | releaseQueued _ => cases h
  | releaseFailed _ => cases h

theorem handleReleaseResult_transition (executor : Pid) (token generation : Ref)
    (result : CallbackResult) (durationNs : Nat) :
    Transition env s (.info (.releaseResult executor token generation result durationNs))
      (handleReleaseResult env executor token generation result durationNs s) := by
  have malformed (hplain : endedBy s
        (.info (.releaseResult executor token generation result durationNs)) = none) :
      Transition env s (.info (.releaseResult executor token generation result durationNs))
        (.noreply (s.updateCounter .malformedMessages 1)) :=
    .counted .malformedMessages rfl (.refl _) rfl ⟨rfl, hplain⟩
  unfold handleReleaseResult
  split
  · next hexecutor =>
      unfold finishReleaseJob
      split
      · next job entry hjob hentry =>
          split
          · next hmatch =>
              split
              · next s₁ hsettle =>
                  split
                  · next s' hdispatch =>
                      exact .finish rfl hexecutor hjob hmatch.1 hmatch.2.1 hentry
                        (Status.releasing?_eq hmatch.2.2) hsettle hdispatch
                  · exact .raise
              · exact .raise
          · next hne => exact malformed (by simp [endedBy, closing, hjob, hentry, hne])
      · next hne =>
          refine malformed ?_
          simp only [endedBy, if_pos hexecutor]
          unfold closing
          split
          · next job entry hjob hentry => exact (hne job entry hjob hentry).elim
          · rfl
  · next hexecutor =>
      exact .silent (.refl _) rfl ⟨rfl, by simp [endedBy, hexecutor]⟩

theorem handleRetryRelease_transition (token generation : Ref) :
    Transition env s (.info (.retryRelease token generation))
      (handleRetryRelease env token generation s) := by
  unfold handleRetryRelease
  split
  · next timer htimer =>
      split
      · next hgeneration =>
          simp only
          split
          · next entry hentry =>
              split
              · next reason hfailed =>
                  split
                  · next s' hs' => exact .retryTimer htimer hgeneration hentry hfailed hs'
                  · exact .raise
              · next hne =>
                  refine .staleTimer htimer hgeneration fun entry' reason hentry' => ?_
                  rw [hentry] at hentry'
                  cases hentry'
                  exact hne reason
          · next hnone =>
              refine .staleTimer htimer hgeneration fun entry' reason hentry' => ?_
              rw [hnone] at hentry'
              cases hentry'
      · exact .silent (.refl _) rfl ⟨rfl, rfl⟩
  · exact .silent (.refl _) rfl ⟨rfl, rfl⟩

theorem handleProtocolDown_transition {monitorRef : Ref} {target : MonitorTarget} {reason : Term}
    (hplain : Plain env s (.info (.down (some monitorRef) reason)))
    (hm : s.protocolMonitors.fetch monitorRef = some target) :
    Transition env s (.info (.down (some monitorRef) reason))
      (handleProtocolDown env monitorRef s) := by
  unfold handleProtocolDown
  rw [hm]
  simp only
  cases target with
  | reservation requestRef => exact .reservationDown hplain hm (.inl rfl)
  | issuePending requestRef => exact .reservationDown hplain hm (.inr rfl)
  | retain token childHolder =>
      simp only
      split
      · next entry hentry =>
          split
          · next hactive => exact .retainDown hplain hm hentry hactive
          · next hne =>
              refine .staleDown hplain hm (.inr ⟨token, childHolder, rfl, fun entry' hentry' => ?_⟩)
              rw [hentry] at hentry'
              cases hentry'
              exact hne
      · next hnone =>
          refine .staleDown hplain hm (.inr ⟨token, childHolder, rfl, fun entry' hentry' => ?_⟩)
          rw [hnone] at hentry'
          cases hentry'
  | issue token requestRef =>
      simp only
      rcases revocable_or_not (s.unwatched monitorRef) token with
        ⟨entry, pending, hentry, hactive, hpending⟩ | hmiss
      · obtain ⟨sent, hsent, h⟩ := cancelPendingIssue_eq env hentry hactive hpending
        rw [show ({ s with protocolMonitors := s.protocolMonitors.delete monitorRef } : State) =
          s.unwatched monitorRef from rfl, h]
        split
        · next s' hs' => exact .issueDown hplain hm hentry hactive hpending hsent hs'
        · exact .raise
      · rw [show ({ s with protocolMonitors := s.protocolMonitors.delete monitorRef } : State) =
          s.unwatched monitorRef from rfl, cancelPendingIssue_miss hmiss]
        exact .staleDown hplain hm (.inl ⟨token, requestRef, rfl, hmiss⟩)

theorem handleReleaseExecutorDown_transition {monitorRef : Ref} (reason : Term)
    (hproducer : some monitorRef ≠ s.producerMonitor)
    (hm : monitorRef = s.releaseExecutorMonitor) :
    Transition env s (.info (.down (some monitorRef) reason))
      (handleReleaseExecutorDown env reason s) := by
  unfold handleReleaseExecutorDown
  simp only
  split
  · next hjob =>
      split
      · next s' hs' => exact .executorDownIdle hproducer hm hjob hs'
      · exact .raise
  · next job hjob =>
      have hjob' : s.releaseJob = some job := hjob
      unfold finishReleaseJob
      split
      · next job' entry hjob'' hentry =>
          cases hjob''.symm.trans hjob
          split
          · next hmatch =>
              simp only [settle]
              split
              · next s' hs' =>
                  exact .executorDown hproducer hm hjob' hentry
                    (Status.releasing?_eq hmatch.2.2) hs'
              · exact .raise
          · next hne =>
              refine .executorDownLost hproducer hm hjob' fun entry' hentry' hstatus =>
                hne ⟨rfl, rfl, ?_⟩
              have hsame : s.leases.fetch job.token = some entry := hentry
              rw [hsame] at hentry'
              cases hentry'
              rw [hstatus]
              rfl
      · next hne =>
          refine .executorDownLost hproducer hm hjob' fun entry' hentry' _ => ?_
          exact hne job entry' hjob hentry'

theorem handleDown_transition (monitorRef : Option Ref) (reason : Term) :
    Transition env s (.info (.down monitorRef reason)) (handleDown env monitorRef reason s) := by
  unfold handleDown
  split
  · next hproducer =>
      exact .producerDown (.inr ⟨reason, by rw [hproducer]⟩)
  · next hproducer =>
      split
      · exact .silent (.refl _) rfl ⟨rfl, rfl⟩
      · next monitorRef =>
          split
          · next hm => exact handleReleaseExecutorDown_transition reason hproducer hm
          · next hm =>
              have hplain : Plain env s (.info (.down (some monitorRef) reason)) :=
                plain_down (.inr hm)
              split
              · next target htarget => exact handleProtocolDown_transition hplain htarget
              · split
                · exact .dropWaiter hplain
                · exact .silent (.refl _) rfl hplain

theorem handleExit_transition (process : Option Pid) :
    Transition env s (.info (.exit process)) (handleExit env process s) := by
  unfold handleExit
  split
  · next hproducer => exact .producerDown (.inl (by rw [hproducer]))
  · exact .silent (.refl _) rfl ⟨rfl, rfl⟩

theorem handleRetry_transition (token : Ref) (caller : Caller) :
    Transition env s (.retry token caller) (handleRetry env token caller s) := by
  obtain ⟨sent, -, h⟩ := cancelRetryTimer_eq token s
  have hleases : (cancelRetryTimer token s).leases = s.leases := by rw [h]
  unfold handleRetry
  simp only [hleases]
  have refused : ∀ {entry : Entry} {reply}, s.leases.fetch token = some entry →
      (∀ reason, entry.status ≠ .releaseFailed reason) →
      Transition env s (.retry token caller)
        (.reply (.retryError reply) (cancelRetryTimer token s)) := by
    intro entry reply hentry hne
    refine .retryRefused fun entry' reason hentry' => ?_
    rw [hentry] at hentry'
    cases hentry'
    exact hne reason
  split
  · next entry hentry =>
      split
      · next reason hfailed =>
          split
          · next s' hs' => exact .retryCall hentry hfailed hs'
          · exact .raise
      · next hstatus => exact refused hentry (by simp [hstatus])
      · next hstatus => exact refused hentry (by simp [hstatus])
      · next hstatus => exact refused hentry (by simp [hstatus])
  · next hnone =>
      refine .retryRefused fun entry' reason hentry' => ?_
      rw [hnone] at hentry'
      cases hentry'

theorem handleInfo_transition (message : Message) :
    Transition env s (.info message) (handleInfo env message s) := by
  cases message with
  | reserveIssue metadata replyTo requestRef =>
      exact handleReserveIssue_transition metadata replyTo requestRef
  | commitIssue reservation backendToken replyTo requestRef =>
      exact handleCommitIssue_transition reservation backendToken replyTo requestRef
  | cancelIssueReservation requestRef => exact .cancelReservation
  | abandoned token holder => exact handleAbandoned_transition token holder
  | confirmIssue token requestRef => exact handleConfirmIssue_transition token requestRef
  | cancelIssue requestRef => exact handleCancelIssue_transition requestRef
  | retain token parentHolder childHolder replyTo requestRef =>
      exact handleRetain_transition token parentHolder childHolder replyTo requestRef
  | confirmRetain token childHolder requestRef =>
      exact handleConfirmRetain_transition token childHolder requestRef
  | cancelRetain token childHolder => exact handleCancelRetain_transition token childHolder
  | release token holder => exact handleRelease_transition token holder
  | drain replyTo requestRef => exact handleDrain_transition replyTo requestRef
  | cancelDrain requestRef => exact .dropWaiter ⟨rfl, rfl⟩
  | releaseResult executor token generation result durationNs =>
      exact handleReleaseResult_transition executor token generation result durationNs
  | retryRelease token generation => exact handleRetryRelease_transition token generation
  | down monitorRef reason => exact handleDown_transition monitorRef reason
  | exit process => exact handleExit_transition process
  | malformed => exact .counted .malformedMessages rfl (.refl _) rfl ⟨rfl, rfl⟩
  | unknown => exact .silent (.refl _) rfl ⟨rfl, rfl⟩

/-- Every callback is one of the transitions. -/
theorem handle_transition (env : Env) (event : Event) (s : State) :
    Transition env s event (handle env event s) := by
  cases event with
  | info message => exact handleInfo_transition message
  | close => exact .close
  | retry token caller => exact handleRetry_transition token caller
  | stats => exact .silent (.refl _) rfl ⟨rfl, rfl⟩
  | other => exact .raise

-- From here on a counter is read through a lemma, so unification need not look into the count.
attribute [irreducible] countKeys

end VideoInterop.LeaseOwner
