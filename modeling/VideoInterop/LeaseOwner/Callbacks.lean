import VideoInterop.LeaseOwner.State

/-!
# The callbacks of the lease owner

`init`, `handle_call`, `handle_info` and the private functions under them, one
definition for each, in the order in which they use one another.  A function
that can raise returns an `Option`; a callback that raises returns
`Outcome.raise`, and the process is gone.
-/

namespace VideoInterop.LeaseOwner

/-- `@release_tombstone_limit` -/
def releaseTombstoneLimit : Nat := 1024

/-! ## Start -/

/-- The options of a lease owner.  An absent option is `none`, except that
`max_active`, `release_retry` and the factory carry their default. -/
structure Options where
  /-- The process whose end begins the drain. -/
  producer : Pid
  /-- Is the producer a process of this node? -/
  producerLocal : Bool
  /-- The most leases and reservations at a time, `none` for `:infinity`. -/
  maxActive : Option Int
  /-- `some none` is an explicit `nil`. -/
  notify : Option (Option Pid)
  /-- Is each release notified? -/
  notifyReleases : Option Bool
  /-- `none` is `:manual`; the fields are `initial_ms`, `max_ms` and `max_attempts`. -/
  releaseRetry : Option (Option Int × Option Int × Option Int)
  /-- Is a guard factory given? -/
  abandonmentGuardFactory : Bool
  /-- `producer_lifecycle: :link`, as `start_link` sets it. -/
  link : Bool

/-- The checks of `validate_options!`, by the option they name. -/
inductive ArgumentError where
  | producer
  | maxActive
  | releaseRetry
deriving DecidableEq

/-- `normalize_retry_policy` and `valid_retry_policy?`. -/
def normalizeRetryPolicy : Option (Option Int × Option Int × Option Int) → Option RetryPolicy
  | none => some .manual
  | some (initialMs, maxMs, maxAttempts) =>
      let initialMs := initialMs.getD 10
      let maxMs := maxMs.getD 1000
      if 0 < initialMs ∧ initialMs ≤ maxMs ∧ ∀ n ∈ maxAttempts, 0 < n then
        some (.exponential initialMs.toNat maxMs.toNat (maxAttempts.map Int.toNat))
      else none

/-- `init`, with `validate_options!`. -/
def init (env : Env) (self : Pid) (opts : Options) : Except ArgumentError State :=
  if !opts.producerLocal then .error .producer
  else if opts.maxActive.any (· ≤ 0) then .error .maxActive
  else
    match normalizeRetryPolicy opts.releaseRetry with
    | none => .error .releaseRetry
    | some releaseRetry =>
        .ok
          { self := self
            producer := some opts.producer
            producerMonitor := if opts.link then none else some env.monitorRef
            notify := opts.notify.getD (some opts.producer)
            notifyReleases := opts.notifyReleases.getD opts.notify.isSome
            releaseRetry := releaseRetry
            abandonmentGuardFactory := opts.abandonmentGuardFactory
            maxActive := opts.maxActive.map Int.toNat
            mode := .open
            leases := ∅
            issueReservations := ∅
            pendingIssues := ∅
            activeHolders := 0
            leaseAgeIndex := ∅
            releaseExecutor := env.executor
            releaseExecutorMonitor := env.executorMonitor
            releaseQueue := []
            releaseJob := none
            protocolMonitors := ∅
            drainWaiters := ∅
            drainMonitors := ∅
            retryTimers := ∅
            releaseTombstones := ∅
            releaseTombstoneOrder := []
            counters := fun _ => 0
            sent :=
              .spawnExecutor env.executor env.executorMonitor ::
                if opts.link then [] else [.monitor opts.producer env.monitorRef] }

/-! ## Outcomes -/

/-- The answer to a `GenServer.call`. -/
inductive CallReply where
  | ok
  | draining
  | retryError (error : RetryError)
  | stats (stats : Stats)

/-- The reasons an owner stops for. -/
inductive StopReason where
  | normal
  | invalidOrExpiredIssueReservation (reservation : Ref)
deriving DecidableEq

/-- What a callback returns. -/
inductive Outcome where
  | noreply (state : State)
  /-- `{:noreply, state, {:continue, :discard_published_guard_reply}}`: the
  continuation collects garbage and returns the same state. -/
  | continue (state : State)
  | reply (reply : CallReply) (state : State)
  | stop (reason : StopReason) (state : State)
  | stopReply (reason : StopReason) (reply : CallReply) (state : State)
  /-- The callback raised. -/
  | raise

/-- The state of an outcome after which the owner lives. -/
def Outcome.live? : Outcome → Option State
  | .noreply s | .continue s | .reply _ s => some s
  | .stop _ _ | .stopReply _ _ _ | .raise => none

/-- The reason and state of an outcome that stops the owner. -/
def Outcome.stopped? : Outcome → Option (StopReason × State)
  | .stop reason s | .stopReply reason _ s => some (reason, s)
  | .noreply _ | .continue _ | .reply _ _ | .raise => none

/-! ## Sending and counting -/

namespace State

/-- Asks one more thing of the runtime. -/
def send (s : State) (signal : Signal) : State :=
  { s with sent := s.sent ++ [signal] }

/-- `update_counter/4` -/
def updateCounter (s : State) (key : CounterKey) (value : Nat)
    (combine : Nat → Nat → Nat := (· + ·)) : State :=
  { s with counters := fun k => if k = key then combine (s.counters k) value else s.counters k }

end State

/-- `notify/2` -/
def notify (message : Notification) (s : State) : State :=
  match s.notify with
  | none => s
  | some process => s.send (.notify process message)

/-- `reply_issue_reservation` -/
def replyIssueReservation (replyTo : Pid) (requestRef : Ref) (result : Except ReserveError Ref)
    (s : State) : State :=
  s.send (.reply replyTo requestRef (.issueReserved result))

/-- `reply_issue` -/
def replyIssue (replyTo : Pid) (requestRef : Ref) (result : Except IssueError Lease)
    (s : State) : State :=
  s.send (.reply replyTo requestRef (.issued result))

/-- `reply_retain` -/
def replyRetain (replyTo : Pid) (requestRef : Ref)
    (result : Except RetainError (Option AbandonmentGuard)) (s : State) : State :=
  s.send (.reply replyTo requestRef (.retained result))

/-! ## Predicates and snapshots -/

/-- Is there room for one more reservation?  Reservations count as leases. -/
def capacityAvailable? (s : State) : Bool :=
  match s.maxActive with
  | none => true
  | some maxActive => s.leases.size + s.issueReservations.size < maxActive

/-- Nothing is leased, reserved, running or queued. -/
def drained? (s : State) : Bool :=
  s.leases.size == 0 && s.issueReservations.size == 0 && s.releaseJob.isNone &&
    s.releaseQueue.isEmpty

/-- `release_job_age_ns/1` of a running job. -/
def releaseJobAgeNs (env : Env) (job : RunningJob) : Int :=
  max (env.clock .jobAge - job.startedNs) 0

/-- The issue time of the smallest element of the age index. -/
def oldestIssuedAtNs (index : Finset (Int × Ref)) : Option Int :=
  (index.image Prod.fst).min

/-- `stats_snapshot` -/
def statsSnapshot (env : Env) (s : State) : Stats where
  counters := s.counters
  state := s.mode
  activeLeases := s.leases.size
  issueReservations := s.issueReservations.size
  activeHolders := s.activeHolders
  oldestLeaseAgeNs := (oldestIssuedAtNs s.leaseAgeIndex).map fun issuedAtNs =>
    max (env.clock .stats - issuedAtNs) 0
  releaseTombstones := s.releaseTombstones.size
  releaseTombstoneLimit := releaseTombstoneLimit
  drainWaiters := s.drainWaiters.size
  releaseExecutorQueueDepth := s.releaseQueue.length
  releaseExecutorActiveAgeNs := s.releaseJob.map (releaseJobAgeNs env)
  messageQueueLen := env.messageQueueLen

/-- `create_abandonment_guard/3`: `none` inside `ok` when no factory is configured. -/
def createAbandonmentGuard (env : Env) (factory : Bool) :
    Except GuardError (Option AbandonmentGuard) :=
  if !factory then .ok none
  else
    match env.factoryResult with
    | .guard guard true => .ok (some guard)
    | .guard guard false => .error (.invalidGuard (.reference guard.resource))
    | .notGuard guard => .error (.invalidGuard guard)
    | .error reason => .error (.factory reason)
    | .exception error stacktrace => .error (.exception error stacktrace)
    | .caught kind reason => .error (.caught kind reason)
    | .other result => .error (.invalidFactoryResult result)

/-! ## Drain waiters -/

/-- Forgets a drain waiter and its monitor. -/
def removeDrainWaiter (requestRef : Ref) (s : State) : State :=
  match s.drainWaiters.fetch requestRef with
  | some (_, monitorRef) =>
      { s.send (.demonitor monitorRef) with
        drainWaiters := s.drainWaiters.delete requestRef
        drainMonitors := s.drainMonitors.delete monitorRef }
  | none => s

/-- Answers one drain waiter and forgets it. -/
def replyDrainWaiter (requestRef : Ref) (result : Except DrainError Unit) (s : State) : State :=
  match s.drainWaiters.fetch requestRef with
  | some (replyTo, _) =>
      removeDrainWaiter requestRef (s.send (.reply replyTo requestRef (.drained result)))
  | none => s

/-- Answers every drain waiter. -/
def replyAllDrainWaiters (env : Env) (result : Except DrainError Unit) (s : State) : State :=
  (env.order s.drainWaiters.keys).foldl (fun s requestRef => replyDrainWaiter requestRef result s) s

/-- The last things a drained owner does: it stops its executor, answers the waiters, and
notifies the final stats before the drain. -/
def completeDrain (env : Env) (s : State) : State :=
  let s := s.send (.stopReleaseExecutor s.releaseExecutor)
  let s := replyAllDrainWaiters env (.ok ()) s
  let s := notify (.finalStats (statsSnapshot env s)) s
  notify .drained s

/-- Stops when draining and drained. -/
def stopOrContinueAfterRelease (env : Env) (s : State) : Outcome :=
  if s.mode = .draining ∧ drained? s then .stop .normal (completeDrain env s)
  else .noreply s

/-- The body of the `find_value` of `first_release_failure/1`. -/
def releaseFailure? (s : State) (token : Ref) : Option (Ref × ReleaseError) :=
  match s.leases.fetch token with
  | some { holders, status := .releaseFailed reason, .. } =>
      if holders.card = 0 then some (token, reason) else none
  | _ => none

/-- The first failed lease in the order of the map. -/
def firstReleaseFailure (env : Env) (s : State) : Option (Ref × ReleaseError) :=
  (env.order s.leases.keys).findSome? (releaseFailure? s)

/-! ## Retry timers -/

/-- Does the policy leave another attempt? -/
def retryAvailable? (attempts : Nat) : Option Nat → Bool
  | none => true
  | some maxAttempts => attempts < maxAttempts

/-- The delay doubles with each attempt up to `maxMs`. -/
def retryDelay (attempts initialMs maxMs : Nat) : Nat :=
  let multiplier := 2 ^ min (attempts - 1) 30
  min (initialMs * multiplier) maxMs

/-- Arms the retry timer of a lease whose release has just failed, when the policy has one. -/
def scheduleRetry (env : Env) (token : Ref) (entry : Entry) (s : State) : State :=
  match s.releaseRetry with
  | .manual => s
  | .exponential initialMs maxMs maxAttempts =>
      if retryAvailable? entry.releaseAttempts maxAttempts then
        let delay := retryDelay entry.releaseAttempts initialMs maxMs
        { s.send (.sendAfter env.timerRef token env.retryGeneration delay) with
          retryTimers := s.retryTimers.put token
            { timerRef := env.timerRef
              generation := env.retryGeneration
              attempt := entry.releaseAttempts + 1 } }
      else s

/-- Cancels the retry timer of a lease, if one is armed. -/
def cancelRetryTimer (token : Ref) (s : State) : State :=
  match s.retryTimers.fetch token with
  | some timer =>
      { s.send (.cancelTimer timer.timerRef) with retryTimers := s.retryTimers.delete token }
  | none => s

/-- Counts a release that is a retry. -/
def maybeCountRetry (s : State) (isRetry : Bool) : State :=
  if isRetry then s.updateCounter .releaseRetries 1 else s

/-! ## Pending issues and retains -/

/-- The issue of an entry is confirmed or abandoned: its monitor goes. -/
def clearPendingIssue (entry : Entry) (s : State) : Entry × State :=
  match entry.pendingIssue with
  | none => (entry, s)
  | some (monitorRef, requestRef) =>
      ({ entry with pendingIssue := none },
        { s.send (.demonitor monitorRef) with
          pendingIssues := s.pendingIssues.delete requestRef
          protocolMonitors := s.protocolMonitors.delete monitorRef })

/-- The retain of one holder is confirmed or abandoned. -/
def clearPendingRetain (holder : Ref) (entry : Entry) (s : State) : Entry × State :=
  match entry.pendingRetains.fetch holder with
  | some (monitorRef, _) =>
      ({ entry with pendingRetains := entry.pendingRetains.delete holder },
        { s.send (.demonitor monitorRef) with
          protocolMonitors := s.protocolMonitors.delete monitorRef })
  | none => (entry, s)

/-- One step of the `reduce` of `clear_all_pending_retains/2`. -/
def dropProtocolMonitor (s : State) (monitorRef : Ref) : State :=
  { s.send (.demonitor monitorRef) with
    protocolMonitors := s.protocolMonitors.delete monitorRef }

/-- The monitors of the pending retains, in the order the map lists its keys. -/
def pendingRetainMonitors (env : Env) (entry : Entry) : List Ref :=
  (env.order entry.pendingRetains.keys).filterMap fun holder =>
    (entry.pendingRetains.fetch holder).map Prod.fst

/-- The lease is about to be released: no retain of it is waited for. -/
def clearAllPendingRetains (env : Env) (entry : Entry) (s : State) : Entry × State :=
  ({ entry with pendingRetains := ∅ },
    (pendingRetainMonitors env entry).foldl dropProtocolMonitor s)

/-- Forgets a reservation, and its monitor unless that has just fired. -/
def removeIssueReservation (requestRef : Ref) (s : State) (demonitor : Bool := true) : State :=
  match s.issueReservations.fetch requestRef with
  | some { monitorRef, .. } =>
      { (if demonitor then s.send (.demonitor monitorRef) else s) with
        issueReservations := s.issueReservations.delete requestRef
        protocolMonitors := s.protocolMonitors.delete monitorRef }
  | none => s

/-! ## The release executor -/

/-- Raises when the job's lease is gone, as the nested `put_in` does. -/
def dispatchNextRelease (env : Env) (s : State) : Option State :=
  match s.releaseJob, s.releaseQueue with
  | none, job :: releaseQueue =>
      match s.leases.fetch job.token with
      | some entry =>
          some
            { s.send (.executeRelease s.releaseExecutor job.token job.generation
                job.backendToken) with
              releaseQueue := releaseQueue
              releaseJob := some { job with startedNs := env.clock .started }
              leases := s.leases.put job.token { entry with status := .releasing job.generation } }
      | none => none
  | _, _ => some s

/-- `release_entry`: the entry waits for no client any more, and a job to release it is queued.
-/
def releaseEntry (env : Env) (token : Ref) (entry : Entry) (s : State) (isRetry : Bool := false)
    (waiter : Option Waiter := none) : Option State :=
  let (entry, s) := clearPendingIssue entry s
  let (entry, s) := clearAllPendingRetains env entry s
  let s := cancelRetryTimer token s
  let attempt := entry.releaseAttempts + 1
  let entry := { entry with releaseAttempts := attempt, status := .releaseQueued env.generation }
  let job : Job :=
    { token := token
      generation := env.generation
      backendToken := entry.backendToken
      attempt := attempt
      isRetry := isRetry
      waiter := waiter }
  dispatchNextRelease env
    { s with leases := s.leases.put token entry, releaseQueue := s.releaseQueue ++ [job] }

/-- Tells the waiter of a job how it ended. -/
def replyReleaseWaiter (waiter : Option Waiter) (result : Except ReleaseError Unit) (token : Ref)
    (s : State) : State :=
  match waiter with
  | none => s
  | some (.retry caller) => s.send (.callReply caller (result.mapError .released))
  | some (.issue replyTo requestRef rejectReason) =>
      match result with
      | .ok _ => replyIssue replyTo requestRef (.error rejectReason) s
      | .error reason =>
          replyIssue replyTo requestRef (.error (.releaseFailed rejectReason token reason)) s

/-- The counters of a finished job. -/
def countFinished (job : RunningJob) (durationNs : Nat) (s : State) : State :=
  (maybeCountRetry ({ s with releaseJob := none }.updateCounter .releaseCallbacks 1)
      job.isRetry).updateCounter .releaseCallbackTotalNs durationNs
    |>.updateCounter .releaseCallbackMaxNs durationNs max

/-- The `{:ok, value}` branch of `finish_release_job/5`. -/
def finishOk (token : Ref) (entry : Entry) (job : RunningJob) (value : Term) (durationNs : Nat)
    (s : State) : State :=
  let s := { s with
    leases := s.leases.delete token
    leaseAgeIndex := s.leaseAgeIndex.erase (entry.issuedAtNs, token) }
  let s :=
    if s.notifyReleases then
      notify (.leaseReleased token entry.metadata value durationNs job.attempt) s
    else s
  replyReleaseWaiter job.waiter (.ok ()) token s

/-- The `{:error, reason}` branch of `finish_release_job/5`. -/
def finishError (env : Env) (token : Ref) (entry : Entry) (job : RunningJob)
    (reason : ReleaseError) (s : State) : State :=
  let failedEntry := { entry with status := .releaseFailed reason }
  let s := { s with leases := s.leases.put token failedEntry }.updateCounter .releaseFailures 1
  let s := notify (.leaseReleaseFailed token entry.metadata reason) s
  let s := replyReleaseWaiter job.waiter (.error reason) token s
  let s := replyAllDrainWaiters env (.error (.releaseFailed token reason)) s
  scheduleRetry env token failedEntry s

/-- The `callback_result` of `finish_release_job/5`. -/
inductive Finish where
  | ok (value : Term)
  | error (reason : ReleaseError)
  /-- No branch accepts it: a `CaseClauseError`. -/
  | invalid

/-- What `finish_release_job/5` gets of the executor's message. -/
def CallbackResult.finish : CallbackResult → Finish
  | .ok value => .ok value
  | .error reason => .error (.callback reason)
  | .invalid _ => .invalid

/-- The `case callback_result` of `finish_release_job/5`. -/
def settle (env : Env) (token : Ref) (entry : Entry) (job : RunningJob) (result : Finish)
    (durationNs : Nat) (s : State) : Option State :=
  match result with
  | .ok value => some (finishOk token entry job value durationNs s)
  | .error reason => some (finishError env token entry job reason s)
  | .invalid => none

/-- The result of the running job.  One of another attempt is ignored. -/
def finishReleaseJob (env : Env) (token generation : Ref) (result : Finish) (durationNs : Nat)
    (s : State) : Outcome :=
  match s.releaseJob, s.leases.fetch token with
  | some job, some entry =>
      if job.token = token ∧ job.generation = generation ∧
          entry.status.releasing? = some generation then
        match settle env token entry job result durationNs (countFinished job durationNs s) with
        | some s =>
            match dispatchNextRelease env s with
            | some s => stopOrContinueAfterRelease env s
            | none => .raise
        | none => .raise
      else .noreply (s.updateCounter .malformedMessages 1)
  | _, _ => .noreply (s.updateCounter .malformedMessages 1)

/-- `start_release_executor` -/
def startReleaseExecutor (env : Env) (s : State) : State :=
  { s.send (.spawnExecutor env.executor env.executorMonitor) with
    releaseExecutor := env.executor
    releaseExecutorMonitor := env.executorMonitor }

/-- A new executor is started, and the running job, if any, has failed. -/
def handleReleaseExecutorDown (env : Env) (reason : Term) (s : State) : Outcome :=
  let s := startReleaseExecutor env (s.updateCounter .releaseExecutorRestarts 1)
  match s.releaseJob with
  | none =>
      match dispatchNextRelease env s with
      | some s => .noreply s
      | none => .raise
  | some job =>
      finishReleaseJob env job.token job.generation (.error (.releaseExecutorDown reason))
        (releaseJobAgeNs env job).toNat s

/-! ## Holders -/

/-- Removes a holder; the last one takes the lease to its release. -/
def removeHolder (env : Env) (token holder : Ref) (entry : Entry) (s : State) : Outcome :=
  if holder ∈ entry.holders then
    let holders := entry.holders.erase holder
    let s := { s with activeHolders := s.activeHolders - 1 }
    if holders.card = 0 then
      match releaseEntry env token { entry with holders := holders } s with
      | some s => stopOrContinueAfterRelease env s
      | none => .raise
    else .noreply { s with leases := s.leases.put token { entry with holders := holders } }
  else .noreply (s.updateCounter .duplicateReleases 1)

/-- An issue that was never confirmed is undone through the release of its token. -/
def cancelPendingIssue (env : Env) (token : Ref) (s : State) : Outcome :=
  match s.leases.fetch token with
  | some entry =>
      match entry.status, entry.pendingIssue with
      | .active, some _ =>
          let (entry, s) := clearPendingIssue entry s
          let removedHolders := entry.holders.card
          let entry := { entry with holders := ∅ }
          let s := { s with activeHolders := s.activeHolders - removedHolders }
          match releaseEntry env token entry s with
          | some s => stopOrContinueAfterRelease env s
          | none => .raise
      | _, _ => .noreply s
  | none => .noreply s

/-! ## Tombstones -/

/-- Raises when the order is empty or its head has no tombstone. -/
def evictReleaseTombstones (s : State) : Option State :=
  if s.releaseTombstones.size ≤ releaseTombstoneLimit then some s
  else
    match s.releaseTombstoneOrder with
    | [] => none
    | holderId :: releaseTombstoneOrder =>
        match s.releaseTombstones.fetch holderId with
        | none => none
        | some classification =>
            let s := { s with
              releaseTombstones := s.releaseTombstones.delete holderId
              releaseTombstoneOrder := releaseTombstoneOrder }
            let s := s.updateCounter .releaseTombstoneEvictions 1
            some
              (if classification = .abandoned then s.updateCounter .abandonmentTombstoneEvictions 1
              else s)

/-- Remembers how a holder was retired, at the cost of the oldest when there are too many. -/
def putReleaseTombstone (holderId : Ref × Ref) (classification : Classification) (s : State) :
    Option State :=
  match s.releaseTombstones.fetch holderId with
  | some _ =>
      some { s with releaseTombstones := s.releaseTombstones.put holderId classification }
  | none =>
      evictReleaseTombstones
        { s with
          releaseTombstones := s.releaseTombstones.put holderId classification
          releaseTombstoneOrder := s.releaseTombstoneOrder ++ [holderId] }

/-! ## Issues -/

/-- `{:continue, :discard_published_guard_reply}` after a guard was published, so that the owner
keeps no copy of it. -/
def continueAfterGuardReply (guard : Option AbandonmentGuard) (s : State) : Outcome :=
  match guard with
  | some _ => .continue s
  | none => .noreply s

/-- No guard could be made: the backend token, which is the owner's by now, is released. -/
def rejectIssue (env : Env) (reason : IssueError) (backendToken metadata : Term) (replyTo : Pid)
    (requestRef token : Ref) (s : State) : Outcome :=
  let entry : Entry :=
    { backendToken := backendToken
      holders := ∅
      issuedAtNs := env.clock .issuedAt
      metadata := metadata
      rootHolder := none
      pendingIssue := none
      pendingRetains := ∅
      releaseAttempts := 0
      status := .active }
  let s := { s with
    leases := s.leases.put token entry
    leaseAgeIndex := insert (env.clock .issuedAt, token) s.leaseAgeIndex }
  match releaseEntry env token entry s false (some (.issue replyTo requestRef reason)) with
  | some s => .noreply s
  | none => .raise

/-- The entry a commit creates when it got its guard. -/
def issuedEntry (env : Env) (backendToken metadata : Term) (requestRef monitorRef : Ref) :
    Entry where
  backendToken := backendToken
  holders := {env.holder}
  issuedAtNs := env.clock .issuedAt
  metadata := metadata
  rootHolder := some env.holder
  pendingIssue := some (monitorRef, requestRef)
  pendingRetains := ∅
  releaseAttempts := 0
  status := .active

/-- Makes the lease of a committed reservation, with its guard. -/
def commitIssue (env : Env) (backendToken metadata : Term) (replyTo : Pid)
    (requestRef monitorRef : Ref) (s : State) : Outcome :=
  match createAbandonmentGuard env s.abandonmentGuardFactory with
  | .ok abandonmentGuard =>
      let entry := issuedEntry env backendToken metadata requestRef monitorRef
      let lease : Lease :=
        { owner := s.self
          token := env.token
          holder := env.holder
          abandonmentGuard := abandonmentGuard }
      let s := { s with
        leases := s.leases.put env.token entry
        pendingIssues := s.pendingIssues.put requestRef env.token
        protocolMonitors := s.protocolMonitors.put monitorRef (.issue env.token requestRef)
        activeHolders := s.activeHolders + 1
        leaseAgeIndex := insert (env.clock .issuedAt, env.token) s.leaseAgeIndex }
      let s := (s.updateCounter .issuedLeases 1).updateCounter .issuedHolders 1
      continueAfterGuardReply abandonmentGuard (replyIssue replyTo requestRef (.ok lease) s)
  | .error reason =>
      rejectIssue env (.abandonmentGuardFactoryFailed reason) backendToken metadata replyTo
        requestRef env.token (dropProtocolMonitor s monitorRef)

/-! ## Retains -/

/-- Registers a further holder of an active lease. -/
def retainHolder (env : Env) (token parentHolder childHolder : Ref) (replyTo : Pid)
    (requestRef : Ref) (s : State) : Outcome :=
  match s.leases.fetch token with
  | some entry =>
      match entry.status with
      | .active =>
          if parentHolder ∉ entry.holders then
            .noreply (replyRetain replyTo requestRef (.error .unknownParentHolder) s)
          else if childHolder ∈ entry.holders then
            .noreply (replyRetain replyTo requestRef (.error .duplicateHolder) s)
          else
            match createAbandonmentGuard env s.abandonmentGuardFactory with
            | .ok childGuard =>
                let entry := { entry with
                  holders := insert childHolder entry.holders
                  pendingRetains :=
                    entry.pendingRetains.put childHolder (env.monitorRef, requestRef) }
                let s := { s.send (.monitor replyTo env.monitorRef) with
                  leases := s.leases.put token entry
                  protocolMonitors :=
                    s.protocolMonitors.put env.monitorRef (.retain token childHolder)
                  activeHolders := s.activeHolders + 1 }
                let s := s.updateCounter .issuedHolders 1
                continueAfterGuardReply childGuard
                  (replyRetain replyTo requestRef (.ok childGuard) s)
            | .error reason =>
                .noreply
                  (replyRetain replyTo requestRef
                    (.error (.abandonmentGuardFactoryFailed reason)) s)
      | _ => .noreply (replyRetain replyTo requestRef (.error .leaseNotActive) s)
  | none => .noreply (replyRetain replyTo requestRef (.error .unknownLease) s)

/-! ## Monitors -/

/-- A client died in the middle of an issue or a retain. -/
def handleProtocolDown (env : Env) (monitorRef : Ref) (s : State) : Outcome :=
  match s.protocolMonitors.fetch monitorRef with
  | some target =>
      let s := { s with protocolMonitors := s.protocolMonitors.delete monitorRef }
      match target with
      | .reservation requestRef | .issuePending requestRef =>
          stopOrContinueAfterRelease env
            (removeIssueReservation requestRef s false)
      | .retain token childHolder =>
          match s.leases.fetch token with
          | some entry =>
              match entry.status with
              | .active =>
                  removeHolder env token childHolder
                    { entry with pendingRetains := entry.pendingRetains.delete childHolder } s
              | _ => .noreply s
          | none => .noreply s
      | .issue token _ => cancelPendingIssue env token s
  | none => .noreply s

/-- The producer is gone: the owner drains. -/
def beginProducerDrain (env : Env) (s : State) : Outcome :=
  let s := { s with mode := .draining, producer := none, producerMonitor := none }
  if drained? s then .stop .normal (completeDrain env s) else .noreply s

/-! ## `handle_call` -/

/-- The `:close` call. -/
def handleClose (env : Env) (s : State) : Outcome :=
  let s := { s with mode := .draining }
  if drained? s then .stopReply .normal .ok (completeDrain env s) else .reply .draining s

/-- The `{:retry, token}` call. -/
def handleRetry (env : Env) (token : Ref) (caller : Caller) (s : State) : Outcome :=
  let s := cancelRetryTimer token s
  match s.leases.fetch token with
  | some entry =>
      match entry.status with
      | .releaseFailed _ =>
          match releaseEntry env token entry s true (some (.retry caller)) with
          | some s => .noreply s
          | none => .raise
      | .releaseQueued _ | .releasing _ => .reply (.retryError .releaseInProgress) s
      | .active => .reply (.retryError .notReleaseFailed) s
  | none => .reply (.retryError .unknownLease) s

/-! ## `handle_info` -/

/-- The `reserve_issue` message. -/
def handleReserveIssue (env : Env) (metadata : Term) (replyTo : Pid) (requestRef : Ref)
    (s : State) : Outcome :=
  if s.mode = .draining then
    .noreply (replyIssueReservation replyTo requestRef (.error .draining) s)
  else if !capacityAvailable? s then
    .noreply (replyIssueReservation replyTo requestRef (.error .capacity) s)
  else
    let s := { s.send (.monitor replyTo env.monitorRef) with
      issueReservations := s.issueReservations.put requestRef
        { reservation := env.reservation
          replyTo := replyTo
          monitorRef := env.monitorRef
          metadata := metadata }
      protocolMonitors := s.protocolMonitors.put env.monitorRef (.reservation requestRef) }
    .noreply (replyIssueReservation replyTo requestRef (.ok env.reservation) s)

/-- The `commit_issue` message, which names its reservation and its process. -/
def handleCommitIssue (env : Env) (reservation : Ref) (backendToken : Term) (replyTo : Pid)
    (requestRef : Ref) (s : State) : Outcome :=
  match s.issueReservations.fetch requestRef with
  | some r =>
      if r.reservation = reservation ∧ r.replyTo = replyTo then
        commitIssue env backendToken r.metadata replyTo requestRef r.monitorRef
          { s with
            issueReservations := s.issueReservations.delete requestRef
            protocolMonitors := s.protocolMonitors.put r.monitorRef (.issuePending requestRef) }
      else
        .stop (.invalidOrExpiredIssueReservation reservation)
          (notify (.protocolCorruption reservation) s)
  | none =>
      .stop (.invalidOrExpiredIssueReservation reservation)
        (notify (.protocolCorruption reservation) s)

/-- The message of a collected guard. -/
def handleAbandoned (env : Env) (token holder : Ref) (s : State) : Outcome :=
  match s.leases.fetch token with
  | some entry =>
      match entry.status with
      | .active =>
          if holder ∈ entry.holders then
            let (entry, s) := clearPendingRetain holder entry s
            match putReleaseTombstone (token, holder) .abandoned
                (s.updateCounter .abandonments 1) with
            | some s => removeHolder env token holder entry s
            | none => .raise
          else .noreply s
      | _ => .noreply s
  | none => .noreply s

/-- The `confirm_issue` message. -/
def handleConfirmIssue (token requestRef : Ref) (s : State) : Outcome :=
  match s.leases.fetch token with
  | some entry =>
      match entry.status, entry.pendingIssue with
      | .active, some (_, pendingRef) =>
          if pendingRef = requestRef then
            let (entry, s) := clearPendingIssue entry s
            .noreply { s with leases := s.leases.put token entry }
          else .noreply s
      | _, _ => .noreply s
  | none => .noreply s

/-- The `cancel_issue` message. -/
def handleCancelIssue (env : Env) (requestRef : Ref) (s : State) : Outcome :=
  match s.pendingIssues.fetch requestRef with
  | some token => cancelPendingIssue env token s
  | none => .noreply s

/-- The `retain` message. -/
def handleRetain (env : Env) (token parentHolder childHolder : Ref) (replyTo : Pid)
    (requestRef : Ref) (s : State) : Outcome :=
  let s := s.updateCounter .retainRequests 1
  if s.mode = .draining then .noreply (replyRetain replyTo requestRef (.error .draining) s)
  else retainHolder env token parentHolder childHolder replyTo requestRef s

/-- The `confirm_retain` message. -/
def handleConfirmRetain (token childHolder requestRef : Ref) (s : State) : Outcome :=
  match s.leases.fetch token with
  | some entry =>
      match entry.status, entry.pendingRetains.fetch childHolder with
      | .active, some (monitorRef, pendingRef) =>
          if pendingRef = requestRef then
            .noreply
              { s.send (.demonitor monitorRef) with
                leases := s.leases.put token
                  { entry with pendingRetains := entry.pendingRetains.delete childHolder }
                protocolMonitors := s.protocolMonitors.delete monitorRef }
          else .noreply s
      | _, _ => .noreply s
  | none => .noreply s

/-- The `cancel_retain` message: the holder was made and is not wanted. -/
def handleCancelRetain (env : Env) (token childHolder : Ref) (s : State) : Outcome :=
  let s := s.updateCounter .retainCancellations 1
  match s.leases.fetch token with
  | some entry =>
      match entry.status with
      | .active =>
          if some childHolder ≠ entry.rootHolder then
            let (entry, s) := clearPendingRetain childHolder entry s
            removeHolder env token childHolder entry s
          else .noreply s
      | _ => .noreply s
  | none => .noreply s

/-- The `release` message of a holder. -/
def handleRelease (env : Env) (token holder : Ref) (s : State) : Outcome :=
  match s.releaseTombstones.fetch (token, holder) with
  | some .abandoned =>
      .noreply
        ({ s with releaseTombstones := s.releaseTombstones.put (token, holder) .explicit
          }.updateCounter .lateReleasesAfterAbandonment 1)
  | some .explicit => .noreply (s.updateCounter .duplicateReleases 1)
  | none =>
      match s.leases.fetch token with
      | some entry =>
          match entry.status with
          | .active =>
              if holder ∈ entry.holders then
                let (entry, s) := clearPendingRetain holder entry s
                match putReleaseTombstone (token, holder) .explicit
                    (s.updateCounter .explicitReleases 1) with
                | some s => removeHolder env token holder entry s
                | none => .raise
              else .noreply (s.updateCounter .unclassifiedReleases 1)
          | _ => .noreply (s.updateCounter .unclassifiedReleases 1)
      | none => .noreply (s.updateCounter .unclassifiedReleases 1)

/-- The `drain` message.  The caller waits unless a release has failed or nothing is leased and
reserved. -/
def handleDrain (env : Env) (replyTo : Pid) (requestRef : Ref) (s : State) : Outcome :=
  let s := { s.send (.monitor replyTo env.monitorRef) with
    mode := .draining
    drainWaiters := s.drainWaiters.put requestRef (replyTo, env.monitorRef)
    drainMonitors := s.drainMonitors.put env.monitorRef requestRef }
  match firstReleaseFailure env s with
  | some (token, reason) =>
      .noreply (replyDrainWaiter requestRef (.error (.releaseFailed token reason)) s)
  | none =>
      if s.leases.size = 0 ∧ s.issueReservations.size = 0 then
        .stop .normal (completeDrain env s)
      else .noreply s

/-- The executor's message.  One of an executor before is ignored. -/
def handleReleaseResult (env : Env) (executor : Pid) (token generation : Ref)
    (result : CallbackResult) (durationNs : Nat) (s : State) : Outcome :=
  if executor = s.releaseExecutor then
    finishReleaseJob env token generation result.finish durationNs s
  else .noreply s

/-- The message of a retry timer.  One of a timer before is ignored. -/
def handleRetryRelease (env : Env) (token generation : Ref) (s : State) : Outcome :=
  match s.retryTimers.fetch token with
  | some timer =>
      if timer.generation = generation then
        let s := { s with retryTimers := s.retryTimers.delete token }
        match s.leases.fetch token with
        | some entry =>
            match entry.status with
            | .releaseFailed _ =>
                match releaseEntry env token entry s true with
                | some s => .noreply s
                | none => .raise
            | _ => .noreply s
        | none => .noreply s
      else .noreply s
  | none => .noreply s

/-- A `:DOWN` message: of the producer, the executor, a drain waiter or a client. -/
def handleDown (env : Env) (monitorRef : Option Ref) (reason : Term) (s : State) : Outcome :=
  -- An owner linked to its producer has no producer monitor, and `nil == nil`.
  if monitorRef = s.producerMonitor then beginProducerDrain env s
  else
    match monitorRef with
    | none => .noreply s
    | some monitorRef =>
        if monitorRef = s.releaseExecutorMonitor then handleReleaseExecutorDown env reason s
        else
          match s.protocolMonitors.fetch monitorRef with
          | some _ => handleProtocolDown env monitorRef s
          | none =>
              match s.drainMonitors.fetch monitorRef with
              | some requestRef => .noreply (removeDrainWaiter requestRef s)
              | none => .noreply s

/-- An `:EXIT` message, which begins the drain when it is the producer's. -/
def handleExit (env : Env) (process : Option Pid) (s : State) : Outcome :=
  if process = s.producer then beginProducerDrain env s else .noreply s

/-- `handle_info` -/
def handleInfo (env : Env) (message : Message) (s : State) : Outcome :=
  match message with
  | .reserveIssue metadata replyTo requestRef =>
      handleReserveIssue env metadata replyTo requestRef s
  | .commitIssue reservation backendToken replyTo requestRef =>
      handleCommitIssue env reservation backendToken replyTo requestRef s
  | .cancelIssueReservation requestRef =>
      stopOrContinueAfterRelease env (removeIssueReservation requestRef s)
  | .abandoned token holder => handleAbandoned env token holder s
  | .confirmIssue token requestRef => handleConfirmIssue token requestRef s
  | .cancelIssue requestRef => handleCancelIssue env requestRef s
  | .retain token parentHolder childHolder replyTo requestRef =>
      handleRetain env token parentHolder childHolder replyTo requestRef s
  | .confirmRetain token childHolder requestRef =>
      handleConfirmRetain token childHolder requestRef s
  | .cancelRetain token childHolder => handleCancelRetain env token childHolder s
  | .release token holder => handleRelease env token holder s
  | .drain replyTo requestRef => handleDrain env replyTo requestRef s
  | .cancelDrain requestRef => .noreply (removeDrainWaiter requestRef s)
  | .releaseResult executor token generation result durationNs =>
      handleReleaseResult env executor token generation result durationNs s
  | .retryRelease token generation => handleRetryRelease env token generation s
  | .down monitorRef reason => handleDown env monitorRef reason s
  | .exit process => handleExit env process s
  | .malformed => .noreply (s.updateCounter .malformedMessages 1)
  | .unknown => .noreply s

/-! ## Events -/

/-- What the owner can be asked to handle. -/
inductive Event where
  | info (message : Message)
  | close
  | retry (token : Ref) (caller : Caller)
  | stats
  /-- A call or cast no clause accepts. -/
  | other

/-- Every callback of the server, by the event it handles. -/
def handle (env : Env) (event : Event) (s : State) : Outcome :=
  match event with
  | .info message => handleInfo env message s
  | .close => handleClose env s
  | .retry token caller => handleRetry env token caller s
  | .stats => .reply (.stats (statsSnapshot env s)) s
  | .other => .raise

end VideoInterop.LeaseOwner
