import VideoInterop.Lib.Path
import VideoInterop.Lib.Threads
import VideoInterop.LeaseOwner.Message

/-!
# Calls of the release dispatcher

`ReleaseDispatcher` is shared by any number of threads and by its worker.  A call
is modelled by the point it has reached: one constructor of `Point` for each
atomic operation, each send and each look at the state behind the mutex, and
`turn` for what happens there.  Between the turns of one call any number of turns
of the others may come.

What lies outside is the choice of a turn: whether a descriptor could be
duplicated, what becomes of a prepared or a claimed frame, whether a deadline has
passed.  A call that is through stays with its result.

The mutex is never poisoned, for nothing panics while it is held, and the worker
never joins itself, for it makes no calls.
-/

namespace VideoInterop.Dispatcher

open LeaseOwner (Ref Pid Term)

/-! ## The shared state -/

/-- The health that `close_and_join` moves. -/
inductive DispatcherHealth where
  | healthy
  | stopping
  | stopped
  | failed
deriving DecidableEq, Repr

/-- Why a holder is given back. -/
inductive MessageKind where
  | release
  | abandoned
deriving DecidableEq, Repr

/-- A message that the worker is to send. -/
structure DispatchCommand where
  /-- Which message. -/
  kind : MessageKind
  /-- The owner it goes to. -/
  owner : Pid
  /-- The token it names. -/
  token : Term
  /-- The holder it names. -/
  holder : Ref

/-- The tag of the message a command sends. -/
def MessageKind.tag : MessageKind → LeaseOwner.Tag
  | .release => .release
  | .abandoned => .abandoned

/-- The message a command sends to its owner. -/
def DispatchCommand.message (command : DispatchCommand) : Term :=
  .tuple [.atom (.tag command.kind.tag), command.token, .reference command.holder]

/-- What the worker receives. -/
inductive WorkerCommand where
  | dispatch (command : DispatchCommand)
  | stop

/-- Where the worker thread stands. -/
inductive Worker where
  | receiving
  | sending (command : DispatchCommand)
  /-- It has received `Stop`. -/
  | leaving
  /-- The thread has exited, and the receiver is gone. -/
  | finished

/-- The resource attached to a lease holder. -/
structure AbandonmentGuard where
  /-- The abandonment it sends when it is destroyed, until then. -/
  command : Option DispatchCommand
  /-- References from terms. -/
  terms : Nat
  /-- References from calls of `prepare_cloexec` and from the leases they made. -/
  kept : Nat

/-- The dispatcher, with its worker and its guards. -/
structure ReleaseDispatcher where
  /-- Does it admit clients? -/
  health : DispatcherHealth
  /-- How many clients are counted. -/
  activeClients : Nat
  /-- How many sends have failed. -/
  undeliveredCommands : Nat
  /-- The commands that are sent and not yet received. -/
  queue : List WorkerCommand
  /-- Where the worker is. -/
  thread : Worker
  /-- Is the mutex held?  It protects the next three. -/
  locked : Bool
  /-- Is the join handle there? -/
  worker : Bool
  /-- Was `Stop` sent? -/
  stopEnqueued : Bool
  /-- Has a closer taken the join handle? -/
  joining : Bool
  /-- The guards, in the order they were made. -/
  guards : List AbandonmentGuard

/-- `ReleaseDispatcher::start`. -/
def ReleaseDispatcher.start : ReleaseDispatcher where
  health := .healthy
  activeClients := 0
  undeliveredCommands := 0
  queue := []
  thread := .receiving
  locked := false
  worker := true
  stopEnqueued := false
  joining := false
  guards := []

/-- The reasons of `fatal_dispatcher_corruption`. -/
inductive Fatal where
  | workerStoppedUnexpectedly
  | workerStoppedBeforeJoin
  | clientCountUnderflow
  | guardNotAdmitted
deriving DecidableEq, Repr

/-- The text the process ends with. -/
def Fatal.reason : Fatal → String
  | .workerStoppedUnexpectedly => "dispatcher worker stopped unexpectedly"
  | .workerStoppedBeforeJoin => "dispatcher worker stopped before lifecycle join"
  | .clientCountUnderflow => "dispatcher client count underflow"
  | .guardNotAdmitted => "abandonment guard could not acquire its published dispatcher"

/-! ## Points -/

/-- What the dispatcher sees of a lease. -/
structure Lease where
  /-- The owner that issued it. -/
  owner : Pid
  /-- The owner's name of it. -/
  token : Term
  /-- The holder this copy belongs to. -/
  holder : Ref
  /-- The guard the term is a reference to, when it is one. -/
  abandonmentGuard : Option Nat

/-- `Lease::prepare` makes this command. -/
def Lease.release (lease : Lease) : DispatchCommand where
  kind := .release
  owner := lease.owner
  token := lease.token
  holder := lease.holder

/-- What a client is acquired for. -/
inductive Use where
  /-- `new_abandonment_guard`, through `with_guard_admission`. -/
  | guard (command : DispatchCommand)
  /-- `dispatch_abandoned`. -/
  | abandoned (command : DispatchCommand)
  /-- `prepare_cloexec` of a frame with a lease. -/
  | prepare (lease : Lease)

/-- The errors of `close_and_join`. -/
inductive CloseError where
  | deadlineTooLarge
  | failed
  | clientsTimeout
  | ownershipTimeout
  | workerUnavailable
  | drainTimeout
deriving DecidableEq, Repr

/-- The text of an error. -/
def CloseError.message : CloseError → String
  | .deadlineTooLarge => "dispatcher close timeout is too large"
  | .failed => "dispatcher is Failed"
  | .clientsTimeout => "timed out waiting for dispatcher clients to retire"
  | .ownershipTimeout => "timed out waiting for dispatcher close ownership"
  | .workerUnavailable => "dispatcher worker is unavailable"
  | .drainTimeout => "timed out waiting for dispatcher worker to drain"

/-- The errors of `prepare_cloexec`. -/
inductive PrepareError where
  | unexpectedLease
  | missingLease
  /-- The admission was refused in this state of health. -/
  | dispatcher (health : DispatcherHealth)
  | duplicate
deriving DecidableEq, Repr

/-- What a call comes to that closes nothing. -/
inductive Result where
  | guardCreated
  | guardRefused (health : DispatcherHealth)
  | abandonmentSent
  /-- The guard found its dispatcher closing. -/
  | abandonmentInert
  | prepareFailed (error : PrepareError)
  /-- The prepared frame was dropped. -/
  | unclaimed
  /-- The claimed frame is gone, its lease retired or dropped. -/
  | released

/-- What comes after a client was dropped. -/
inductive After where
  | done (result : Result)
  /-- `dispatch_release` drops the keepalive. -/
  | keepalive (lease : Lease) (retire : Bool)

/-- Where a call is, one point before each of its atomic steps. -/
inductive Point where
  -- `acquire_client`
  /-- It is to look at the health. -/
  | acquire (use : Use)
  /-- It is to count itself. -/
  | enter (use : Use)
  /-- It is to look again, now that it is counted. -/
  | recheck (use : Use)
  /-- It is to uncount itself. -/
  | withdraw (use : Use)
  /-- It is to say why it was refused. -/
  | refused (use : Use)
  -- `with_guard_admission` runs its operation
  /-- The guard is to be made. -/
  | admitted (command : DispatchCommand)
  -- `dispatch_abandoned` looks why it was refused
  /-- The health is to be stopping or stopped. -/
  | inert
  -- `DispatcherClient::dispatch` and `drop`
  /-- The command is to be put into the queue. -/
  | dispatch (command : DispatchCommand) (after : After)
  /-- The client is to be dropped. -/
  | leave (after : After)
  -- `prepare_cloexec` and the life of the frame
  /-- The descriptors are to be duplicated. -/
  | duplicate (lease : Option Lease)
  /-- The frame is prepared, and may be claimed or dropped. -/
  | prepared (lease : Option Lease)
  /-- The prepared lease is to be dropped. -/
  | dropPrepared (lease : Lease) (result : Result)
  /-- The frame is claimed, and may be retired or dropped. -/
  | claimed (lease : Option Lease)
  /-- The reference to the guard is to be dropped. -/
  | dropKeepalive (lease : Lease) (retire : Bool)
  /-- The retired lease is to be dropped. -/
  | dropRetired
  -- `close_and_join`
  /-- The deadline is to be computed. -/
  | closeAndJoin
  /-- It is to look at the health. -/
  | beginClose
  /-- It is to swap the health, if nobody else has. -/
  | swapHealth
  /-- It is to look at the number of clients. -/
  | waitForClients
  /-- There are clients. -/
  | clientsSleep
  /-- It is to try the mutex. -/
  | lockToStop
  /-- The mutex was held. -/
  | stopSleep
  /-- It is to look whether `Stop` has to be sent. -/
  | stopCheck
  /-- It is to send `Stop`. -/
  | stopSend
  /-- It is to say that `Stop` was sent. -/
  | stopMark
  /-- It is to unlock. -/
  | stopUnlock
  /-- It is to unlock, for there is no worker. -/
  | stopUnavailable
  /-- It is to look whether another closer is through. -/
  | checkStopped
  /-- It is to look whether the dispatcher has failed. -/
  | checkFailed
  /-- It is to try the mutex. -/
  | lockToJoin
  /-- The mutex was held. -/
  | joinSleep
  /-- It is to look whether the worker can be joined. -/
  | inspect
  /-- It is to unlock, with the join handle or without. -/
  | joinUnlock (taken : Bool)
  /-- It is to unlock, for there is no worker. -/
  | joinUnavailable
  /-- It is to join the worker. -/
  | join
  /-- It is to publish the end. -/
  | publish
  /-- The worker runs, or another closer joins it. -/
  | drainSleep
  /-- The call of a closer is through. -/
  | closed (result : Except CloseError Unit)
  /-- The call is through. -/
  | returned (result : Result)

/-! ## Turns -/

namespace ReleaseDispatcher

/-- `sender.send`.  It fails when the receiver is gone. -/
def send (command : WorkerCommand) (d : ReleaseDispatcher) : Option ReleaseDispatcher :=
  match d.thread with
  | .finished => none
  | _ => some { d with queue := d.queue ++ [command] }

/-- The references to the guard of a lease. -/
def mapGuard (g : Option Nat) (f : AbandonmentGuard → AbandonmentGuard) (d : ReleaseDispatcher) :
    ReleaseDispatcher :=
  match g with
  | none => d
  | some g => { d with guards := d.guards.modify g f }

/-- A call keeps the guard of a lease. -/
def keep (lease : Lease) : ReleaseDispatcher → ReleaseDispatcher :=
  mapGuard lease.abandonmentGuard fun guard => { guard with kept := guard.kept + 1 }

/-- A call keeps it no more. -/
def unkeep (lease : Lease) : ReleaseDispatcher → ReleaseDispatcher :=
  mapGuard lease.abandonmentGuard fun guard => { guard with kept := guard.kept - 1 }

end ReleaseDispatcher

/-- A turn goes on to a point, or it ends the process. -/
inductive Outcome where
  | next (d : ReleaseDispatcher) (p : Point)
  | abort (reason : Fatal)

/-- `release_client`. -/
def releaseClient (d : ReleaseDispatcher) (p : Point) : Outcome :=
  if d.activeClients = 0 then .abort .clientCountUnderflow
  else .next { d with activeClients := d.activeClients - 1 } p

/-- Where a client is used. -/
def Use.granted : Use → Point
  | .guard command => .admitted command
  | .abandoned command => .dispatch command (.done .abandonmentSent)
  | .prepare lease => .duplicate (some lease)

/-- Where a refusal leads.  The error names the health of that moment. -/
def Use.refuse (d : ReleaseDispatcher) : Use → Outcome
  | .guard _ => .next d (.returned (.guardRefused d.health))
  | .abandoned _ => .next d .inert
  | .prepare lease => .next (d.unkeep lease) (.returned (.prepareFailed (.dispatcher d.health)))

/-- The point after the client is dropped. -/
def After.point : After → Point
  | .done result => .returned result
  | .keepalive lease retire => .dropKeepalive lease retire

/-- `sleep_until_retry` before the next attempt. -/
def sleepUntilRetry (d : ReleaseDispatcher) (go : Bool) (retry : Point) (error : CloseError) :
    Outcome :=
  if go then .next d retry else .next d (.closed (.error error))

/-- `try_lock`. -/
def tryLock (d : ReleaseDispatcher) (locked sleep : Point) : Outcome :=
  if d.locked then .next d sleep else .next { d with locked := true } locked

/-- Unlock the mutex. -/
def unlock (d : ReleaseDispatcher) (p : Point) : Outcome := .next { d with locked := false } p

/-- Has the worker thread exited? -/
def Worker.isFinished : Worker → Bool
  | .finished => true
  | _ => false

/-- What happens at a point.  `go` is what lies outside: the descriptor could be
duplicated, the prepared frame is claimed, the claimed one is retired rather than
dropped, the deadline is no overflow or has not passed. -/
def turn (d : ReleaseDispatcher) (go : Bool) : Point → Option Outcome
  | .acquire use =>
      some (if d.health = .healthy then .next d (.enter use) else .next d (.refused use))
  | .enter use => some (.next { d with activeClients := d.activeClients + 1 } (.recheck use))
  | .recheck use =>
      some (if d.health = .healthy then .next d use.granted else .next d (.withdraw use))
  | .withdraw use => some (releaseClient d (.refused use))
  | .refused use => some (use.refuse d)
  | .admitted command =>
      some (.next { d with guards := d.guards ++ [⟨some command, 1, 0⟩] }
        (.leave (.done .guardCreated)))
  | .inert =>
      some (if d.health = .stopping ∨ d.health = .stopped then .next d (.returned .abandonmentInert)
        else .abort .guardNotAdmitted)
  | .dispatch command after =>
      match d.send (.dispatch command) with
      | some d => some (.next d (.leave after))
      | none => some (.abort .workerStoppedUnexpectedly)
  | .leave after => some (releaseClient d after.point)
  | .duplicate none =>
      some (if go then .next d (.prepared none)
        else .next d (.returned (.prepareFailed .duplicate)))
  | .duplicate (some lease) =>
      some (if go then .next d (.prepared (some lease))
        else .next d (.dropPrepared lease (.prepareFailed .duplicate)))
  | .prepared none =>
      some (if go then .next d (.claimed none) else .next d (.returned .unclaimed))
  | .prepared (some lease) =>
      some (if go then .next d (.claimed (some lease))
        else .next d (.dropPrepared lease .unclaimed))
  -- The fields of a prepared lease are dropped in order, the guard before the client.
  | .dropPrepared lease result => some (.next (d.unkeep lease) (.leave (.done result)))
  | .claimed none => some (.next d (.returned .released))
  -- `dispatch_release` takes the command and drops the client with the dispatch.
  | .claimed (some lease) =>
      match d.send (.dispatch lease.release) with
      | some d => some (.next d (.leave (.keepalive lease go)))
      | none => some (.abort .workerStoppedUnexpectedly)
  | .dropKeepalive lease retire =>
      some (.next (d.unkeep lease) (if retire then .dropRetired else .returned .released))
  -- The lease is dropped after `retire`, and there is no command left.
  | .dropRetired => some (.next d (.returned .released))
  | .closeAndJoin =>
      some (if go then .next d .beginClose
        else .next d (.closed (.error .deadlineTooLarge)))
  | .beginClose =>
      match d.health with
      | .healthy => some (.next d .swapHealth)
      | .stopping | .stopped => some (.next d .waitForClients)
      | .failed => some (.next d (.closed (.error .failed)))
  | .swapHealth =>
      some (if d.health = .healthy then .next { d with health := .stopping } .waitForClients
        else .next d .beginClose)
  | .waitForClients =>
      some (if d.activeClients = 0 then .next d .lockToStop else .next d .clientsSleep)
  | .clientsSleep => some (sleepUntilRetry d go .waitForClients .clientsTimeout)
  | .lockToStop => some (tryLock d .stopCheck .stopSleep)
  | .stopSleep => some (sleepUntilRetry d go .lockToStop .ownershipTimeout)
  | .stopCheck =>
      some (if d.health = .stopped ∨ d.stopEnqueued = true then .next d .stopUnlock
        else if d.worker = false then .next d .stopUnavailable
        else .next d .stopSend)
  | .stopSend =>
      match d.send .stop with
      | some d => some (.next d .stopMark)
      | none => some (.abort .workerStoppedBeforeJoin)
  | .stopMark => some (.next { d with stopEnqueued := true } .stopUnlock)
  | .stopUnlock => some (unlock d .checkStopped)
  | .stopUnavailable => some (unlock d (.closed (.error .workerUnavailable)))
  | .checkStopped =>
      some (if d.health = .stopped then .next d (.closed (.ok ()))
        else .next d .checkFailed)
  | .checkFailed =>
      some (if d.health = .failed then .next d (.closed (.error .failed))
        else .next d .lockToJoin)
  | .lockToJoin => some (tryLock d .inspect .joinSleep)
  | .joinSleep => some (sleepUntilRetry d go .lockToJoin .ownershipTimeout)
  | .inspect =>
      some (if d.worker = true ∧ d.joining = false ∧ d.thread.isFinished = true then
          .next { d with joining := true, worker := false } (.joinUnlock true)
        else if d.joining = true ∨ d.worker = true then .next d (.joinUnlock false)
        else .next d .joinUnavailable)
  | .joinUnlock taken => some (unlock d (if taken then .join else .drainSleep))
  | .joinUnavailable => some (unlock d (.closed (.error .workerUnavailable)))
  -- The worker has exited, so there is nothing to wait for.
  | .join => some (.next d .publish)
  | .publish => some (.next { d with health := .stopped } (.closed (.ok ())))
  | .drainSleep => some (sleepUntilRetry d go .checkStopped .drainTimeout)
  | .closed _ => none
  | .returned _ => none

/-- `dispatch_worker`, up to its next command or its next send. -/
def work (d : ReleaseDispatcher) (delivered : Bool) : Option ReleaseDispatcher :=
  match d.thread with
  | .receiving =>
      match d.queue with
      | .dispatch command :: rest => some { d with queue := rest, thread := .sending command }
      | .stop :: rest => some { d with queue := rest, thread := .leaving }
      | [] => none
  | .sending _ =>
      some { d with
        thread := .receiving
        undeliveredCommands :=
          if delivered then d.undeliveredCommands else d.undeliveredCommands + 1 }
  | .leaving => some { d with thread := .finished }
  | .finished => none

/-! ## The system -/

/-- A process with a dispatcher. -/
structure World where
  /-- The dispatcher. -/
  dispatcher : ReleaseDispatcher
  /-- All calls that were made, in the order they were made. -/
  calls : List Point
  /-- The process was aborted. -/
  fatal : Option Fatal

/-- Before any call. -/
def World.start : World := ⟨.start, [], none⟩

/-- What happens next. -/
inductive Input where
  /-- `new_abandonment_guard`. -/
  | newGuard (owner : Pid) (token : Term) (holder : Ref)
  /-- `prepare_cloexec` of a frame in a binary or not. -/
  | prepare (binary : Bool) (lease : Option Lease)
  | closeAndJoin
  /-- The next turn of a call. -/
  | turn (call : Nat) (go : Bool)
  | work (delivered : Bool)
  /-- A term that is a reference to a guard is copied, or it is no more. -/
  | copyTerm (g : Nat)
  | dropTerm (g : Nat)
  /-- The destructor of a guard without references. -/
  | destroy (g : Nat)

/-- Where a call of `prepare_cloexec` starts: the storage and the lease have to go
together. -/
def prepareCloexec (binary : Bool) (lease : Option Lease) : Point :=
  match binary, lease with
  | true, none => .duplicate none
  | true, some _ => .returned (.prepareFailed .unexpectedLease)
  | false, none => .returned (.prepareFailed .missingLease)
  | false, some lease => .acquire (.prepare lease)

/-- The lease's guard is there: some term is a reference to it. -/
def Lease.referenced (lease : Lease) (d : ReleaseDispatcher) : Prop :=
  ∀ g, lease.abandonmentGuard = some g → ∃ guard, d.guards[g]? = some guard ∧ 0 < guard.terms

instance (lease : Lease) (d : ReleaseDispatcher) : Decidable (lease.referenced d) :=
  match hg : lease.abandonmentGuard with
  | none => .isTrue fun g h => by rw [hg] at h; cases h
  | some g =>
      match hguard : d.guards[g]? with
      | none => .isFalse fun h => by
          obtain ⟨guard, hsome, -⟩ := h g hg
          rw [hguard] at hsome
          cases hsome
      | some guard =>
          if hpos : 0 < guard.terms then
            .isTrue fun g' hg' => by
              rw [hg] at hg'
              cases hg'
              exact ⟨guard, hguard, hpos⟩
          else .isFalse fun h => by
            obtain ⟨guard', hsome, hpos'⟩ := h g hg
            rw [hguard] at hsome
            cases hsome
            exact hpos hpos'

/-- A call starts. -/
def World.call (w : World) (p : Point) : World := { w with calls := w.calls ++ [p] }

/-- The system takes an input, unless the process was aborted. -/
def step (w : World) (i : Input) : Option World :=
  if w.fatal.isSome then none
  else match i with
  | .newGuard owner token holder =>
      some (w.call (.acquire (.guard ⟨.abandoned, owner, token, holder⟩)))
  | .prepare binary lease =>
      match prepareCloexec binary lease with
      | .acquire (.prepare lease) =>
          if lease.referenced w.dispatcher then
            some { w with
              dispatcher := w.dispatcher.keep lease
              calls := w.calls ++ [.acquire (.prepare lease)] }
          else none
      | p => some (w.call p)
  | .closeAndJoin => some (w.call .closeAndJoin)
  | .turn call go =>
      match w.calls[call]? with
      | none => none
      | some p =>
          match turn w.dispatcher go p with
          | none => none
          | some (.next d p') => some { w with dispatcher := d, calls := w.calls.set call p' }
          | some (.abort reason) => some { w with fatal := some reason }
  | .work delivered => (work w.dispatcher delivered).map fun d => { w with dispatcher := d }
  | .copyTerm g =>
      match w.dispatcher.guards[g]? with
      | some guard =>
          if 0 < guard.terms then
            some { w with dispatcher := w.dispatcher.mapGuard (some g) fun guard =>
              { guard with terms := guard.terms + 1 } }
          else none
      | none => none
  | .dropTerm g =>
      match w.dispatcher.guards[g]? with
      | some guard =>
          if 0 < guard.terms then
            some { w with dispatcher := w.dispatcher.mapGuard (some g) fun guard =>
              { guard with terms := guard.terms - 1 } }
          else none
      | none => none
  | .destroy g =>
      match w.dispatcher.guards[g]? with
      | some ⟨some command, 0, 0⟩ =>
          some { w with
            dispatcher := w.dispatcher.mapGuard (some g) fun guard => { guard with command := none }
            calls := w.calls ++ [.acquire (.abandoned command)] }
      | _ => none

/-- The visits of a run that ends in `w`. -/
def Run (visits : List (Visit World Input)) (w : World) : Prop :=
  Path (fun w i w' => step w i = some w') .start visits w

/-- The visits of some inputs to a fresh dispatcher. -/
def perform (inputs : List Input) : Option (List (Visit World Input) × World) :=
  Path.follow step .start inputs

theorem perform_run {inputs : List Input} (h : (perform inputs).isSome = true) :
    Run ((perform inputs).get h).1 ((perform inputs).get h).2 :=
  Path.of_follow (Option.some_get h).symm

end VideoInterop.Dispatcher
