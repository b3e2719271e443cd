import Mathlib.Data.Finset.Basic
import Mathlib.Data.Finset.Max
import VideoInterop.Lib.FiniteMap
import VideoInterop.LeaseOwner.Message

/-!
# The state of the lease owner

`State` is the map `init` returns, field by field.  One field is not of the
source: `sent` lists what the running callback has asked of the runtime, oldest
first, since a send is an effect in the source and a value here.

`Env` is what the runtime answers during one callback: the references it makes,
the clock, the guard factory, the order in which it lists a map.  The callbacks
are functions of an environment, so a run quantifies over environments and a
callback stays deterministic.
-/

namespace VideoInterop.LeaseOwner

/-! ## Errors and replies -/

/-- The errors of `create_abandonment_guard`. -/
inductive GuardError where
  | invalidGuard (guard : Term)
  | factory (reason : Term)
  | exception (error stacktrace : Term)
  | caught (kind reason : Term)
  | invalidFactoryResult (result : Term)
deriving Inhabited

/-- A guard envelope that `AbandonmentGuard.valid?` accepted. -/
structure AbandonmentGuard where
  /-- The reference of the guard resource. -/
  resource : Ref
deriving DecidableEq

/-- `%VideoInterop.Lease{}` -/
structure Lease where
  /-- The owner process that issued the lease. -/
  owner : Pid
  /-- The owner's name of the lease. -/
  token : Ref
  /-- The holder this copy of the lease belongs to. -/
  holder : Ref
  /-- The guard that abandons the holder when it is collected. -/
  abandonmentGuard : Option AbandonmentGuard
deriving DecidableEq

/-- The reason of a failed release. -/
inductive ReleaseError where
  /-- The callback returned an error, raised, or returned something else. -/
  | callback (reason : Term)
  /-- The executor died while it ran. -/
  | releaseExecutorDown (reason : Term)

/-- The refusals of a reservation. -/
inductive ReserveError where
  | draining
  | capacity
deriving DecidableEq

/-- The errors of a committed issue. -/
inductive IssueError where
  | abandonmentGuardFactoryFailed (reason : GuardError)
  /-- The rejected token could not be released either. -/
  | releaseFailed (reject : IssueError) (token : Ref) (reason : ReleaseError)

/-- The refusals of a retain. -/
inductive RetainError where
  | draining
  | unknownParentHolder
  | duplicateHolder
  | abandonmentGuardFactoryFailed (reason : GuardError)
  | leaseNotActive
  | unknownLease

/-- The answers of a retry call. -/
inductive RetryError where
  | releaseInProgress
  | notReleaseFailed
  | unknownLease
  | released (reason : ReleaseError)

/-- The error of a drain. -/
inductive DrainError where
  | releaseFailed (token : Ref) (reason : ReleaseError)

/-- A message sent to a request reference, which is a process alias. -/
inductive Reply where
  | issueReserved (result : Except ReserveError Ref)
  | issued (result : Except IssueError Lease)
  | retained (result : Except RetainError (Option AbandonmentGuard))
  | drained (result : Except DrainError Unit)

/-! ## Leases, reservations and jobs -/

/-- The life of a lease.  A generation names one attempt to release it. -/
inductive Status where
  /-- It has holders. -/
  | active
  /-- The release waits in the queue. -/
  | releaseQueued (generation : Ref)
  /-- The executor releases it. -/
  | releasing (generation : Ref)
  /-- The last release has failed. -/
  | releaseFailed (reason : ReleaseError)

/-- The generation in the executor's hands. -/
def Status.releasing? : Status → Option Ref
  | .releasing generation => some generation
  | _ => none

/-- A lease entry. -/
structure Entry where
  /-- The token of the producer, handed to the release callback. -/
  backendToken : Term
  /-- The registered holders that have not been retired. -/
  holders : Finset Ref
  /-- The monotonic time of the issue. -/
  issuedAtNs : Int
  /-- The metadata the producer reserved the issue with. -/
  metadata : Term
  /-- The holder of the issued lease, which no `cancel_retain` removes. -/
  rootHolder : Option Ref
  /-- Monitor and request of the issuer, until it confirms. -/
  pendingIssue : Option (Ref × Ref)
  /-- Monitor and request of each retainer that has not confirmed. -/
  pendingRetains : FMap Ref (Ref × Ref)
  /-- How many releases of the token were queued. -/
  releaseAttempts : Nat
  /-- Where the lease is between its issue and its release. -/
  status : Status

/-- A capacity reservation. -/
structure Reservation where
  /-- The reference a commit has to name. -/
  reservation : Ref
  /-- The process that reserved. -/
  replyTo : Pid
  /-- The monitor of that process. -/
  monitorRef : Ref
  /-- The metadata of the lease to come. -/
  metadata : Term

/-- The client of a `GenServer.call`. -/
structure Caller where
  /-- The calling process. -/
  pid : Pid
  /-- The tag its reply carries. -/
  requestTag : Ref
deriving DecidableEq

/-- Who waits for the outcome of a job. -/
inductive Waiter where
  /-- The caller of a retry. -/
  | retry (caller : Caller)
  /-- The issuer that is refused for the reason, once its token is released. -/
  | issue (replyTo : Pid) (requestRef : Ref) (reason : IssueError)

/-- A queued release. -/
structure Job where
  /-- The lease to release. -/
  token : Ref
  /-- The attempt this job is. -/
  generation : Ref
  /-- The token handed to the callback. -/
  backendToken : Term
  /-- The number of the attempt, from one. -/
  attempt : Nat
  /-- Has an earlier attempt failed? -/
  isRetry : Bool
  /-- Who is told the outcome. -/
  waiter : Option Waiter

/-- The job the executor works on. -/
structure RunningJob extends Job where
  /-- The monotonic time it was handed to the executor. -/
  startedNs : Int

/-- What a monitor of the issue and retain protocols stands for. -/
inductive MonitorTarget where
  /-- The process that has reserved. -/
  | reservation (requestRef : Ref)
  /-- The same, while its commit is handled. -/
  | issuePending (requestRef : Ref)
  /-- The issuer of a lease it has not confirmed. -/
  | issue (token requestRef : Ref)
  /-- The retainer of a holder it has not confirmed. -/
  | retain (token childHolder : Ref)
deriving DecidableEq

/-- An armed retry timer. -/
structure RetryTimer where
  /-- The reference of the runtime's timer. -/
  timerRef : Ref
  /-- The generation its message carries, so that a stale one is told apart. -/
  generation : Ref
  /-- The number of the attempt it is to start. -/
  attempt : Nat

/-- How a holder was retired. -/
inductive Classification where
  /-- It was released. -/
  | explicit
  /-- Its guard was collected. -/
  | abandoned
deriving DecidableEq

/-- `release_retry`, normalized. -/
inductive RetryPolicy where
  /-- By `retry/3` only. -/
  | manual
  /-- `maxAttempts = none` is `:infinity`. -/
  | exponential (initialMs maxMs : Nat) (maxAttempts : Option Nat)

/-- Does the owner admit issues and retains, or does it only wait for releases? -/
inductive Mode where
  /-- It admits issues and retains. -/
  | open
  /-- It admits none, and stops when everything is released. -/
  | draining
deriving DecidableEq

/-- The keys of the counter map. -/
inductive CounterKey where
  | issuedLeases
  | issuedHolders
  | retainRequests
  | retainCancellations
  | explicitReleases
  | abandonments
  | lateReleasesAfterAbandonment
  | duplicateReleases
  | unclassifiedReleases
  | releaseTombstoneEvictions
  | abandonmentTombstoneEvictions
  | releaseCallbacks
  | releaseFailures
  | releaseRetries
  | releaseCallbackTotalNs
  | releaseCallbackMaxNs
  | releaseExecutorRestarts
  | malformedMessages
deriving DecidableEq

/-- The snapshot of `stats_snapshot`. -/
structure Stats where
  /-- The counter map. -/
  counters : CounterKey → Nat
  /-- `:open` or `:draining`. -/
  state : Mode
  /-- The number of lease entries, the queued and failed ones included. -/
  activeLeases : Nat
  /-- The number of reservations that have not been committed. -/
  issueReservations : Nat
  /-- The number of registered holders over all leases. -/
  activeHolders : Nat
  /-- The age of the oldest lease, if there is one. -/
  oldestLeaseAgeNs : Option Int
  /-- The number of retired holders that are remembered. -/
  releaseTombstones : Nat
  /-- The most that can be. -/
  releaseTombstoneLimit : Nat
  /-- The number of processes that wait for the drain. -/
  drainWaiters : Nat
  /-- The number of queued releases. -/
  releaseExecutorQueueDepth : Nat
  /-- How long the running release has taken so far. -/
  releaseExecutorActiveAgeNs : Option Int
  /-- The length of the owner's mailbox. -/
  messageQueueLen : Nat

/-- A message to the `notify` process. -/
inductive Notification where
  | protocolCorruption (reservation : Ref)
  | leaseReleased (token : Ref) (metadata result : Term) (releaseCallbackNs attempt : Nat)
  | leaseReleaseFailed (token : Ref) (metadata : Term) (reason : ReleaseError)
  | finalStats (stats : Stats)
  | drained

/-- What a callback asks of the runtime. -/
inductive Signal where
  /-- `reply_via_alias` -/
  | reply (replyTo : Pid) (requestRef : Ref) (reply : Reply)
  /-- The job an executor is to work on. -/
  | executeRelease (executor : Pid) (token generation : Ref) (backendToken : Term)
  /-- The executor is to exit. -/
  | stopReleaseExecutor (executor : Pid)
  /-- A message to the `notify` process. -/
  | notify (process : Pid) (message : Notification)
  /-- `GenServer.reply` to a retry call. -/
  | callReply (caller : Caller) (result : Except RetryError Unit)
  /-- `Process.monitor` -/
  | monitor (process : Pid) (monitorRef : Ref)
  /-- `Process.demonitor(monitor_ref, [:flush])` -/
  | demonitor (monitorRef : Ref)
  /-- `spawn_monitor` of a release executor. -/
  | spawnExecutor (executor : Pid) (monitorRef : Ref)
  /-- `Process.send_after` of a `retry_release` message. -/
  | sendAfter (timerRef token generation : Ref) (delayMs : Nat)
  /-- `Process.cancel_timer` -/
  | cancelTimer (timerRef : Ref)

/-! ## The owner -/

/-- The state of an owner process. -/
structure State where
  /-- `self()` -/
  self : Pid
  /-- The producer, until it is down. -/
  producer : Option Pid
  /-- Its monitor, when the owner is not linked to it. -/
  producerMonitor : Option Ref
  /-- The process that is told of releases and of the drain. -/
  notify : Option Pid
  /-- Is it told of each release? -/
  notifyReleases : Bool
  /-- When a failed release is tried again. -/
  releaseRetry : RetryPolicy
  /-- Is a guard factory configured? -/
  abandonmentGuardFactory : Bool
  /-- `none` is `:infinity`. -/
  maxActive : Option Nat
  /-- `:open` until the producer is down or a drain begins. -/
  mode : Mode
  /-- The entry of each lease, by token. -/
  leases : FMap Ref Entry
  /-- The reservations, by the request that made them. -/
  issueReservations : FMap Ref Reservation
  /-- The token of each issue that is not confirmed, by request. -/
  pendingIssues : FMap Ref Ref
  /-- The number of registered holders over all leases. -/
  activeHolders : Nat
  /-- The leases ordered by their time of issue. -/
  leaseAgeIndex : Finset (Int × Ref)
  /-- The process that runs the release callback. -/
  releaseExecutor : Pid
  /-- The monitor of the executor. -/
  releaseExecutorMonitor : Ref
  /-- Oldest job first. -/
  releaseQueue : List Job
  /-- The job the executor works on. -/
  releaseJob : Option RunningJob
  /-- What each monitor of a client stands for. -/
  protocolMonitors : FMap Ref MonitorTarget
  /-- The process and monitor of each drain request that waits. -/
  drainWaiters : FMap Ref (Pid × Ref)
  /-- The drain request of each such monitor. -/
  drainMonitors : FMap Ref Ref
  /-- The armed retry timer of each failed lease. -/
  retryTimers : FMap Ref RetryTimer
  /-- How each remembered holder was retired. -/
  releaseTombstones : FMap (Ref × Ref) Classification
  /-- Oldest retirement first. -/
  releaseTombstoneOrder : List (Ref × Ref)
  /-- The counters of `stats`. -/
  counters : CounterKey → Nat
  /-- What the running callback has asked of the runtime, oldest first. -/
  sent : List Signal

/-! ## The runtime -/

/-- The places where a callback reads the monotonic clock. -/
inductive Clock where
  | issuedAt
  | started
  | jobAge
  | stats

/-- What a call of the guard factory came to, before any check. -/
inductive FactoryResult where
  /-- `{:ok, %AbandonmentGuard{}}`, with the verdict of `AbandonmentGuard.valid?`. -/
  | guard (guard : AbandonmentGuard) (valid : Bool)
  /-- `{:ok, guard}` of any other term. -/
  | notGuard (guard : Term)
  | error (reason : Term)
  | exception (error stacktrace : Term)
  | caught (kind reason : Term)
  | other (result : Term)

/-- What the runtime answers during one callback. -/
structure Env where
  /-- No identifier from here on is in use. -/
  supply : Nat
  /-- What the monotonic clock shows at each place. -/
  clock : Clock → Int
  /-- `Process.info(self(), :message_queue_len)` -/
  messageQueueLen : Nat
  /-- What the guard factory answers, if it is called. -/
  factoryResult : FactoryResult
  /-- The order in which a map lists its keys. -/
  order : List Ref → List Ref
  /-- A listing of a map names each key once. -/
  order_perm : ∀ refs, (order refs).Perm refs

namespace Env

/-! Every place of the source that makes an identifier, at most once in a
callback, has its own.  The names are those of the variables they are bound to. -/

/-- The reference of a reservation. -/
def reservation (env : Env) : Ref := env.supply
/-- The monitor of a client. -/
def monitorRef (env : Env) : Ref := env.supply + 1
/-- The token of a new lease. -/
def token (env : Env) : Ref := env.supply + 2
/-- The holder of a new lease. -/
def holder (env : Env) : Ref := env.supply + 3
/-- The generation of a queued release. -/
def generation (env : Env) : Ref := env.supply + 4
/-- The generation of an armed retry timer. -/
def retryGeneration (env : Env) : Ref := env.supply + 5
/-- The timer of `Process.send_after`. -/
def timerRef (env : Env) : Ref := env.supply + 6
/-- The monitor of a new executor. -/
def executorMonitor (env : Env) : Ref := env.supply + 7
/-- A new executor process. -/
def executor (env : Env) : Pid := env.supply + 8

/-- The supply after the callback. -/
def next (env : Env) : Nat := env.supply + 9

theorem mem_order (env : Env) {refs : List Ref} {r : Ref} : r ∈ env.order refs ↔ r ∈ refs :=
  (env.order_perm refs).mem_iff

end Env

end VideoInterop.LeaseOwner
