import VideoInterop.Lib.Mailbox
import VideoInterop.LeaseOwner.Told

/-!
# Calls of the owner

`LeaseOwner.issue`, `LeaseOwner.drain` and `Lease.retain` are calls by hand: a
monitor, a process alias as the request reference, a request, one or two
`receive`s.  A caller is a program over a few actions, taken one at a time; an
`Exchange` is one caller and the owner with everything that is on its way
between them.

The owner is the owner of `Runs`: it may handle anything in between, it may stop,
raise or be killed in the middle of a callback.  What is promised is that nobody
else makes a request under the caller's alias.

The timeout is not a number here: `after` may expire whenever no clause accepts a
message of the mailbox.
-/

namespace VideoInterop.LeaseOwner

/-! ## Callers -/

/-- Why the owner is gone. -/
inductive DownReason where
  | exit (reason : Term)
  | noproc
  | ownerMustBeALocalPid

/-- The reasons in an error of the three calls. -/
inductive Failure where
  | timeout
  | ownerDown (reason : DownReason)
  | ownerMustBeALocalPid
  | reserve (reason : ReserveError)
  | issue (reason : IssueError)
  | retain (reason : RetainError)
  | invalidAbandonmentGuard

/-- What a call returns. -/
inductive Result where
  /-- `{:ok, lease}` -/
  | ok (lease : Lease)
  | drained (result : Except DrainError Unit)
  /-- `{:error, {:caller_owned, reason}}` -/
  | callerOwned (reason : Failure)
  /-- `{:error, {:transferred, reason}}` -/
  | transferred (reason : Failure)
  | error (reason : Failure)

/-- Did the call give up waiting? -/
def Result.timedOut : Result → Bool
  | .callerOwned .timeout | .transferred .timeout | .error .timeout => true
  | _ => false

/-- A message in the caller's mailbox or on its way there. -/
inductive Arrival where
  /-- A message sent to a request reference. -/
  | reply (requestRef : Ref) (answer : Reply)
  | down (monitorRef : Ref) (reason : DownReason)
  /-- Any other message. -/
  | other (message : Term)

/-- The calls that wait for a reply. -/
inductive Call where
  | issue (backendToken metadata : Term)
  | drain
  /-- `valid` is the verdict of `AbandonmentGuard.valid?`. -/
  | retain (lease : Lease) (childHolder : Ref) (valid : AbandonmentGuard → Bool)

/-- A process that makes one call. -/
structure Client where
  /-- The calling process. -/
  self : Pid
  /-- `node(owner) == node()` -/
  ownerLocal : Bool
  /-- The monitor of the owner. -/
  monitorRef : Ref
  /-- The alias. -/
  requestRef : Ref
  /-- What it calls. -/
  call : Call

/-- What the patterns with `^request_ref` and `^monitor_ref` see of a message. -/
inductive Seen where
  | reply (answer : Reply)
  | down (reason : DownReason)
  | other

/-- What a receive clause makes of a message. -/
def Arrival.seen (c : Client) : Arrival → Seen
  | .reply requestRef answer => if requestRef = c.requestRef then .reply answer else .other
  | .down monitorRef reason => if monitorRef = c.monitorRef then .down reason else .other
  | .other _ => .other

/-- One step of a caller. -/
inductive Action where
  | send (message : Message)
  /-- `Process.alias` -/
  | openAlias
  | unalias
  /-- `Process.demonitor(monitor_ref, [:flush])` -/
  | demonitor

/-- The receives. -/
inductive Await where
  /-- `await_issue_reservation` -/
  | issueReservation (backendToken : Term)
  /-- `await_committed_issue` -/
  | committedIssue
  /-- `await_drain` -/
  | drain
  /-- `await_retain` -/
  | retain (lease : Lease) (childHolder : Ref) (valid : AbandonmentGuard → Bool)

/-- Another receive, or the result. -/
inductive Next where
  | await (a : Await)
  | returns (result : Result)

/-- The body of a receive's clause. -/
structure Clause where
  /-- What is done. -/
  actions : List Action
  /-- What comes next. -/
  next : Next

/-- `cleanup_request` -/
def cleanupRequest : List Action := [.unalias, .demonitor]

/-- `await_issue_reservation` -/
def awaitIssueReservation (c : Client) (backendToken : Term) : Seen → Option Clause
  | .reply (.issueReserved (.ok reservation)) =>
      some ⟨[.send (.commitIssue reservation backendToken c.self c.requestRef)],
        .await .committedIssue⟩
  | .reply (.issueReserved (.error reason)) =>
      some ⟨cleanupRequest, .returns (.callerOwned (.reserve reason))⟩
  | .down reason => some ⟨[.unalias], .returns (.callerOwned (.ownerDown reason))⟩
  | _ => none

/-- `await_committed_issue` -/
def awaitCommittedIssue (c : Client) : Seen → Option Clause
  | .reply (.issued (.ok lease)) =>
      some ⟨.send (.confirmIssue lease.token c.requestRef) :: cleanupRequest, .returns (.ok lease)⟩
  | .reply (.issued (.error reason)) =>
      some ⟨cleanupRequest, .returns (.transferred (.issue reason))⟩
  | .down reason => some ⟨[.unalias], .returns (.transferred (.ownerDown reason))⟩
  | _ => none

/-- `await_drain` -/
def awaitDrain : Seen → Option Clause
  | .reply (.drained result) => some ⟨cleanupRequest, .returns (.drained result)⟩
  | .down reason => some ⟨[.unalias], .returns (.error (.ownerDown reason))⟩
  | _ => none

/-- `valid_child_guard?` -/
def validChildGuard (valid : AbandonmentGuard → Bool) :
    Option AbandonmentGuard → Option AbandonmentGuard → Bool
  | none, none => true
  | _, childGuard => childGuard.any valid

/-- `await_retain` -/
def awaitRetain (c : Client) (lease : Lease) (childHolder : Ref) (valid : AbandonmentGuard → Bool) :
    Seen → Option Clause
  | .reply (.retained (.ok childGuard)) =>
      if validChildGuard valid lease.abandonmentGuard childGuard then
        some
          ⟨.send (.confirmRetain lease.token childHolder c.requestRef) :: cleanupRequest,
            .returns (.ok { lease with holder := childHolder, abandonmentGuard := childGuard })⟩
      else
        some
          ⟨[.unalias, .send (.cancelRetain lease.token childHolder), .demonitor],
            .returns (.error .invalidAbandonmentGuard)⟩
  | .reply (.retained (.error reason)) => some ⟨cleanupRequest, .returns (.error (.retain reason))⟩
  | .down reason => some ⟨[.unalias], .returns (.error (.ownerDown reason))⟩
  | _ => none

namespace Await

/-- The clauses of a receive. -/
def clauses (c : Client) : Await → Seen → Option Clause
  | .issueReservation backendToken => awaitIssueReservation c backendToken
  | .committedIssue => awaitCommittedIssue c
  | .drain => awaitDrain
  | .retain lease childHolder valid => awaitRetain c lease childHolder valid

/-- The cancellation and the result of the `after`. -/
def cancel (c : Client) : Await → Message × Result
  | .issueReservation _ => (.cancelIssueReservation c.requestRef, .callerOwned .timeout)
  | .committedIssue => (.cancelIssue c.requestRef, .transferred .timeout)
  | .drain => (.cancelDrain c.requestRef, .error .timeout)
  | .retain lease childHolder _ => (.cancelRetain lease.token childHolder, .error .timeout)

/-- The `after` of a receive.  All four take the alias away before anything else. -/
def after (c : Client) (a : Await) : Clause :=
  ⟨[.unalias, .send (a.cancel c).1, .demonitor], .returns (a.cancel c).2⟩

end Await

namespace Client

/-- The message that starts the call. -/
def request (c : Client) : Message :=
  match c.call with
  | .issue _ metadata => .reserveIssue metadata c.self c.requestRef
  | .drain => .drain c.self c.requestRef
  | .retain lease childHolder _ => .retain lease.token lease.holder childHolder c.self c.requestRef

/-- The receive the call waits in first. -/
def awaits (c : Client) : Await :=
  match c.call with
  | .issue backendToken _ => .issueReservation backendToken
  | .drain => .drain
  | .retain lease childHolder valid => .retain lease childHolder valid

/-- The result when `Process.alive?` denies. -/
def ownerDown (c : Client) (reason : DownReason) : Result :=
  match c.call with
  | .issue _ _ => .callerOwned (.ownerDown reason)
  | .drain | .retain _ _ _ => .error (.ownerDown reason)

/-- The result for an owner of another node. -/
def remote (c : Client) : Result :=
  match c.call with
  | .issue _ _ => .callerOwned .ownerMustBeALocalPid
  | .drain | .retain _ _ _ => .error (.ownerDown .ownerMustBeALocalPid)

/-- The receive of `owner_down_reason`. -/
def ownerDownReason (c : Client) (a : Arrival) : Option DownReason :=
  match a.seen c with
  | .down reason => some reason
  | _ => none

end Client

/-- Where the caller is. -/
inductive Phase where
  | idle
  /-- It has monitored the owner. -/
  | monitored
  /-- `Process.alive?` has denied. -/
  | refused
  | running (todo : List Action) (next : Next)
  | waiting (a : Await)
  | returned (result : Result)

/-! ## The owner's part -/

/-- What a step makes of an owner, and what it has sent by then. -/
inductive Owner.Move (o : Owner) (i : Input) : Option Owner → List Signal → Prop where
  | lives {o'} (h : Step o i o') : Move o i (some o') o'.state.sent
  /-- It stops, or it is killed after its first `n` signals. -/
  | dies {s} (n : Nat) (hfresh : o.supply ≤ i.env.supply)
      (hstate : (outcome o.state i).state? = some s) : Move o i none (s.sent.take n)
  | raises (hraise : (outcome o.state i).state? = none) : Move o i none []

/-- What arrives at the caller of a signal of the owner. -/
def Signal.arrival (c : Client) : Signal → Option Arrival
  | .reply _ requestRef answer =>
      if requestRef = c.requestRef then some (.reply requestRef answer) else none
  | _ => none

/-! ## Exchanges -/

/-- A caller, an owner and what is between them. -/
structure Exchange where
  /-- `none` once the owner is gone. -/
  owner : Option Owner
  /-- The caller's messages the owner has not handled, oldest first. -/
  inbox : List Message
  /-- What is on its way to the caller, oldest first. -/
  transit : List Arrival
  /-- Is the alias active? -/
  aliased : Bool
  /-- Is the monitor active? -/
  monitored : Bool
  /-- The caller's mailbox, oldest first. -/
  mailbox : List Arrival
  /-- How far the call is. -/
  phase : Phase

namespace Exchange

/-- Is the message delivered if it arrives now? -/
def accepts (w : Exchange) : Seen → Bool
  | .reply _ => w.aliased
  | .down _ => w.monitored
  | .other => true

/-- The messages of the mailbox that a flush leaves. -/
def flushed (c : Client) (box : List Arrival) : List Arrival :=
  box.filter fun a => (c.ownerDownReason a).isNone

/-- The effect of an action. -/
def perform (c : Client) (w : Exchange) : Action → Exchange
  | .send message => { w with inbox := w.inbox ++ [message] }
  | .openAlias => { w with aliased := true }
  | .unalias => { w with aliased := false }
  | .demonitor => { w with monitored := false, mailbox := flushed c w.mailbox }

/-- Where an input of the owner comes from, and what is left of the caller's
messages.  Nobody but the caller makes a request under its alias. -/
inductive Source (c : Client) (w : Exchange) (event : Event) : List Message → Prop where
  | caller {message rest} (hinbox : w.inbox = message :: rest) (hevent : event = .info message) :
      Source c w event rest
  | others (hasks : event.asks c.requestRef = none) : Source c w event w.inbox

/-- The signal of the caller's monitor. -/
def obituary (c : Client) (w : Exchange) (reason : DownReason) : Option Owner → List Arrival
  | some _ => []
  | none => if w.monitored then [.down c.monitorRef reason] else []

/-- The next thing that happens. -/
inductive Act where
  /-- The next step of the caller. -/
  | caller
  /-- The `after` of the caller's receive expires. -/
  | expire
  /-- The oldest message on its way to the caller arrives. -/
  | arrive
  /-- Some other message arrives. -/
  | disturb (message : Term)
  | owner (i : Input)
  /-- The owner is killed between two callbacks. -/
  | kill

/-- One thing that happens to a call. -/
inductive Step (c : Client) (w : Exchange) : Act → Exchange → Prop where
  | remote (hphase : w.phase = .idle) (hremote : c.ownerLocal = false) :
      Step c w .caller { w with phase := .returned c.remote }
  | monitor (hphase : w.phase = .idle) (hlocal : c.ownerLocal = true) :
      Step c w .caller
        { w with
          monitored := true
          transit := w.transit ++ if w.owner.isNone then [.down c.monitorRef .noproc] else []
          phase := .monitored }
  | alive (hphase : w.phase = .monitored) (howner : w.owner.isSome = true) :
      Step c w .caller
        { w with phase := .running [.openAlias, .send c.request] (.await c.awaits) }
  | notAlive (hphase : w.phase = .monitored) (howner : w.owner = none) :
      Step c w .caller { w with phase := .refused }
  | downReason {reason box} (hphase : w.phase = .refused)
      (hreceive : Mailbox.receive c.ownerDownReason w.mailbox = some (reason, box)) :
      Step c w .caller
        { w with mailbox := box, phase := .running [.demonitor] (.returns (c.ownerDown reason)) }
  | noReason (hphase : w.phase = .refused)
      (hreceive : Mailbox.receive c.ownerDownReason w.mailbox = none) :
      Step c w .caller
        { w with phase := .running [.demonitor] (.returns (c.ownerDown .noproc)) }
  | act {action todo next} (hphase : w.phase = .running (action :: todo) next) :
      Step c w .caller { w.perform c action with phase := .running todo next }
  | await {a} (hphase : w.phase = .running [] (.await a)) :
      Step c w .caller { w with phase := .waiting a }
  | returns {result} (hphase : w.phase = .running [] (.returns result)) :
      Step c w .caller { w with phase := .returned result }
  | receive {a clause box} (hphase : w.phase = .waiting a)
      (hreceive : Mailbox.receive (fun m => a.clauses c (m.seen c)) w.mailbox = some
        (clause, box)) :
      Step c w .caller { w with mailbox := box, phase := .running clause.actions clause.next }
  | expire {a} (hphase : w.phase = .waiting a)
      (hreceive : Mailbox.receive (fun m => a.clauses c (m.seen c)) w.mailbox = none) :
      Step c w .expire { w with phase := .running (a.after c).actions (a.after c).next }
  | deliver {m rest} (htransit : w.transit = m :: rest) (haccepts : w.accepts (m.seen c) = true) :
      Step c w .arrive { w with transit := rest, mailbox := w.mailbox ++ [m] }
  | discard {m rest} (htransit : w.transit = m :: rest) (haccepts : w.accepts (m.seen c) = false) :
      Step c w .arrive { w with transit := rest }
  | disturb {message} :
    Step c w (.disturb message) { w with mailbox := w.mailbox ++ [.other message] }
  | owner {o i rest left sent} (reason : Term) (howner : w.owner = some o)
      (hsource : w.Source c i.event rest) (hmove : o.Move i left sent) :
      Step c w (.owner i)
        { w with
          owner := left
          inbox := rest
          transit := w.transit ++ sent.filterMap (Signal.arrival c) ++
            w.obituary c (.exit reason) left }
  | kill {o} (reason : Term) (howner : w.owner = some o) :
      Step c w .kill
        { w with owner := none, transit := w.transit ++ w.obituary c (.exit reason) none }

/-- Before the call.  The owner is new, or there is none. -/
structure Init (c : Client) (w : Exchange) : Prop where
  /-- The owner has just begun. -/
  owner : ∀ o, w.owner = some o → o.Init
  /-- Nothing is on its way to the owner. -/
  inbox : w.inbox = []
  /-- Nothing is on its way to the caller. -/
  transit : w.transit = []
  /-- The reference is no alias yet. -/
  aliased : w.aliased = false
  /-- No old message looks like an answer. -/
  mailbox : ∀ m ∈ w.mailbox, m.seen c = .other
  /-- The call has not begun. -/
  phase : w.phase = .idle

/-- A call from its beginning. -/
def Run (c : Client) (visits : List (Visit Exchange Act)) (w : Exchange) : Prop :=
  ∃ w₀, Init c w₀ ∧ Path (Step c) w₀ visits w

end Exchange

end VideoInterop.LeaseOwner
