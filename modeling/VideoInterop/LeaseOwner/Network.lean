import VideoInterop.LeaseOwner.Bookkeeping
import VideoInterop.LeaseOwner.Calls

/-!
# Many callers and one owner

A network is an owner and any number of processes that make one call each, with the
messages that are on their way between them.  The messages of one process arrive in
order, and the signal of its death behind them.  Every process runs as in an exchange,
and may die at any moment; whatever else the owner handles comes from outside, which
does not know the references of the processes.

A program that makes several calls is several processes here, with less order between
their messages than there is.  A reference that a call makes is set aside for it before
the run.
-/

namespace VideoInterop.LeaseOwner

/-! ## Messages -/

/-- The reference a message makes or changes a request of. -/
def Message.requestRef? : Message → Option Ref
  | .reserveIssue _ _ requestRef | .commitIssue _ _ _ requestRef
  | .cancelIssueReservation requestRef | .confirmIssue _ requestRef | .cancelIssue requestRef
  | .retain _ _ _ _ requestRef | .confirmRetain _ _ requestRef | .drain _ requestRef
  | .cancelDrain requestRef => some requestRef
  | _ => none

/-- The holder a message is about that a retain makes. -/
def Message.childHolder? : Message → Option Ref
  | .retain _ _ childHolder _ _ | .confirmRetain _ childHolder _ | .cancelRetain _ childHolder =>
      some childHolder
  | _ => none

/-- Does a message transfer a token? -/
def Message.commits : Message → Bool
  | .commitIssue .. => true
  | _ => false

/-- The holder that the call makes. -/
def Client.childHolder? (c : Client) : Option Ref :=
  match c.call with
  | .retain _ childHolder _ => some childHolder
  | .issue _ _ | .drain => none

/-- A message of others: it does not name the references of the call. -/
structure Message.Foreign (c : Client) (message : Message) : Prop where
  /-- It is not of the request. -/
  request : message.requestRef? ≠ some c.requestRef
  /-- It names no holder that the call makes. -/
  child : ∀ childHolder, c.childHolder? = some childHolder →
    message.childHolder? ≠ some childHolder

/-- The monitor a signal makes. -/
def Signal.watch : Signal → Option Ref
  | .monitor _ monitorRef => some monitorRef
  | _ => none

/-! ## Processes -/

/-- A process that makes one call. -/
structure Process where
  /-- The call it makes. -/
  client : Client
  /-- Does it live? -/
  alive : Bool
  /-- Its messages that the owner has handled, oldest first. -/
  handled : List Message
  /-- Its messages that the owner has not handled, oldest first. -/
  inbox : List Message
  /-- What is on its way to it, oldest first. -/
  transit : List Arrival
  /-- Is its alias active? -/
  aliased : Bool
  /-- Is its monitor of the owner active? -/
  monitored : Bool
  /-- Its mailbox, oldest first. -/
  mailbox : List Arrival
  /-- How far the call is. -/
  phase : Phase
  /-- The owner's monitor of it. -/
  watch : Option Ref
  /-- The token of the lease that its commit was to make. -/
  token : Option Ref
  /-- Has the owner handled the signal of its death? -/
  mourned : Bool

namespace Process

/-- The process's side of its exchange with an owner. -/
def exchange (x : Process) (owner : Option Owner) : Exchange where
  owner := owner
  inbox := x.inbox
  transit := x.transit
  aliased := x.aliased
  monitored := x.monitored
  mailbox := x.mailbox
  phase := x.phase

/-- The process when its side has become another. -/
def after (x : Process) (e : Exchange) : Process :=
  { x with
    inbox := e.inbox
    transit := e.transit
    aliased := e.aliased
    monitored := e.monitored
    mailbox := e.mailbox
    phase := e.phase }

/-- What the process is sent when the owner has handled something, and when it has come
to its end. -/
def hear (x : Process) (sent : List Signal) (reason : Term) (left : Option Owner) : Process :=
  { x with
    transit := x.transit ++ sent.filterMap (Signal.arrival x.client) ++
      (x.exchange none).obituary x.client (.exit reason) left }

/-- The owner has handled the oldest message of the process. -/
def serve (x : Process) (env : Env) (sent : List Signal) : Process :=
  { x with
    handled := x.handled ++ x.inbox.head?.toList
    inbox := x.inbox.tail
    watch := x.watch <|> sent.findSome? Signal.watch
    token := if x.inbox.head?.any Message.commits then some env.token else x.token }

/-- The owner has handled the signal of the process's death. -/
def mourn (x : Process) : Process := { x with mourned := true }

end Process

/-- An event of others. -/
structure Event.Foreign (x : Process) (event : Event) : Prop where
  /-- It is no message of the call. -/
  message : ∀ message, event = .info message → message.Foreign x.client
  /-- It is not the signal of its process. -/
  down : ∀ monitorRef, x.watch = some monitorRef → ¬Fired event monitorRef

/-- A step of the caller's side. -/
def Exchange.Act.own : Exchange.Act → Bool
  | .caller | .expire | .arrive | .disturb _ => true
  | .owner _ | .kill => false

/-! ## Networks -/

/-- Where an event comes from. -/
inductive Sender where
  /-- A message of a process. -/
  | process (k : Nat)
  /-- The signal of a process's death. -/
  | down (k : Nat)
  | outside
deriving DecidableEq

/-- The owner and the processes that call it. -/
structure Network where
  /-- `none` once the owner is gone. -/
  owner : Option Owner
  /-- The processes. -/
  processes : List Process
  /-- The holders that the releases and abandonments name that the owner has handled. -/
  named : List (Ref × Ref)

namespace Network

/-- Where an event comes from. -/
inductive Source (w : Network) (event : Event) : Sender → Prop where
  | process {k x message rest} (hx : w.processes[k]? = some x) (hinbox : x.inbox = message :: rest)
      (hevent : event = .info message) : Source w event (.process k)
  | down {k x monitorRef} (hx : w.processes[k]? = some x) (hdead : x.alive = false)
      (hinbox : x.inbox = []) (hwatch : x.watch = some monitorRef)
      (hevent : Fired event monitorRef) : Source w event (.down k)
  | outside (hforeign : ∀ x ∈ w.processes, event.Foreign x) : Source w event .outside

/-- A retain is of a lease that a call has returned. -/
def Given (w : Network) (c : Client) : Prop :=
  ∀ lease childHolder valid, c.call = .retain lease childHolder valid →
    ∃ x ∈ w.processes, ∃ returned : Lease, x.phase = .returned (.ok returned) ∧
      returned.token = lease.token ∧ returned.holder = lease.holder

/-- A process after the owner's callback for an event. -/
def served (sender : Sender) (i : Input) (sent : List Signal) (reason : Term) (left : Option Owner)
    (k : Nat) (x : Process) : Process :=
  (if sender = .process k then x.serve i.env sent
    else if sender = .down k then x.mourn else x).hear sent reason left

/-- The next thing that happens. -/
inductive Act where
  /-- A step of a process, or one of its mailbox. -/
  | process (k : Nat) (act : Exchange.Act)
  /-- A process dies. -/
  | die (k : Nat)
  | owner (i : Input) (sender : Sender)
  /-- The owner is killed between two callbacks. -/
  | kill

/-- One thing that happens to a network. -/
inductive Step (w : Network) : Act → Network → Prop where
  | process {k x act e} (hx : w.processes[k]? = some x) (halive : x.alive = true)
      (hown : act.own = true) (hgiven : x.phase = .idle → w.Given x.client)
      (hst : Exchange.Step x.client (x.exchange w.owner) act e) :
      Step w (.process k act) { w with processes := w.processes.set k (x.after e) }
  | die {k x} (hx : w.processes[k]? = some x) (halive : x.alive = true) :
      Step w (.die k) { w with processes := w.processes.set k { x with alive := false } }
  | owner {o i sender left sent} (reason : Term) (howner : w.owner = some o)
      (hsource : w.Source i.event sender) (hmove : o.Move i left sent) :
      Step w (.owner i sender)
        { w with
          owner := left
          processes := w.processes.mapIdx (served sender i sent reason left)
          named := w.named ++ (i.event.retires.map Prod.snd).toList }
  | kill {o} (reason : Term) (howner : w.owner = some o) :
      Step w .kill { w with owner := none, processes := w.processes.map (·.hear [] reason none) }

/-- Before the calls.  The references of the calls are their own. -/
structure Init (w : Network) : Prop where
  /-- The owner has just begun. -/
  owner : ∀ o, w.owner = some o → o.Init
  /-- No call has begun. -/
  processes : ∀ x ∈ w.processes, x.handled = [] ∧ x.watch = none ∧ x.token = none ∧
    x.mourned = false ∧ Exchange.Init x.client (x.exchange w.owner)
  /-- Every call has a reference of its own. -/
  requests : (w.processes.map fun x => x.client.requestRef).Nodup
  /-- Every retain has a holder of its own. -/
  children : (w.processes.filterMap fun x => x.client.childHolder?).Nodup
  /-- No reference that the owner makes is a holder of a call. -/
  supply : ∀ o, w.owner = some o → ∀ x ∈ w.processes, ∀ childHolder,
    x.client.childHolder? = some childHolder → childHolder < o.supply
  /-- No holder was named. -/
  named : w.named = []

/-- A network from its beginning. -/
def Run (visits : List (Visit Network Act)) (w : Network) : Prop :=
  ∃ w₀, Init w₀ ∧ Path Step w₀ visits w

end Network

/-! ## Scripts -/

/-- The message an action sends. -/
def Action.message? : Action → Option Message
  | .send message => some message
  | _ => none

/-- The messages that some actions send. -/
def sends (actions : List Action) : List Message := actions.filterMap Action.message?

/-- What is left of the clause the caller is in. -/
def Phase.todo : Phase → List Action
  | .running todo _ => todo
  | _ => []

/-- What the caller does next, once it has made its request. -/
def Phase.next? : Phase → Option Next
  | .idle | .monitored | .refused => none
  | .running _ next => some next
  | .waiting a => some (.await a)
  | .returned result => some (.returns result)

/-- The messages of the call so far, those of its clause included. -/
def Process.script (x : Process) : List Message := x.handled ++ x.inbox ++ sends x.phase.todo

/-- The messages of a call that comes to a receive or to a result. -/
inductive Course (c : Client) : List Message → Next → Prop where
  | request : Course c [c.request] (.await c.awaits)
  | remote : Course c [] (.returns c.remote)
  | ownerDown {reason} : Course c [] (.returns (c.ownerDown reason))
  | receive {messages a seen clause} (h : Course c messages (.await a))
      (hclause : a.clauses c seen = some clause) :
      Course c (messages ++ sends clause.actions) clause.next
  | expire {messages a} (h : Course c messages (.await a)) :
      Course c (messages ++ sends (a.after c).actions) (a.after c).next

/-- The process has sent what its place in the call says. -/
structure Process.Scripted (x : Process) : Prop where
  /-- What was said is the course of the call up to here. -/
  course : ∀ next, x.phase.next? = some next → Course x.client x.script next
  /-- Nothing was said before it began. -/
  silent : x.phase.next? = none → x.script = []

@[simp] theorem sends_nil : sends [] = [] := rfl

@[simp] theorem sends_send (message : Message) (actions : List Action) :
    sends (.send message :: actions) = message :: sends actions := rfl

@[simp] theorem sends_unalias (actions : List Action) :
    sends (.unalias :: actions) = sends actions := rfl

@[simp] theorem sends_demonitor (actions : List Action) :
    sends (.demonitor :: actions) = sends actions := rfl

@[simp] theorem sends_openAlias (actions : List Action) :
    sends (.openAlias :: actions) = sends actions := rfl

@[simp] theorem sends_cleanupRequest : sends cleanupRequest = [] := rfl

/-- A step of the caller's side follows the script. -/
theorem Process.Scripted.step {x : Process} {owner : Option Owner} {act : Exchange.Act}
    {e : Exchange} (h : x.Scripted) (hown : act.own = true)
    (hst : Exchange.Step x.client (x.exchange owner) act e) : (x.after e).Scripted := by
  have hquiet {phase : Phase} (hphase : x.phase = phase) (hnext : phase.next? = none)
      (htodo : phase.todo = []) : x.handled ++ x.inbox = [] := by
    have hsilent := h.silent (by rw [hphase]; exact hnext)
    simpa [Process.script, hphase, htodo] using hsilent
  -- A step between two places of the call that sends nothing new.
  have keeps {x' : Process} (hclient : x'.client = x.client) (hscript : x'.script = x.script)
      (hnext : x'.phase.next? = x.phase.next?) : x'.Scripted := by
    refine ⟨fun next hn => ?_, fun hn => ?_⟩
    · rw [hclient, hscript]
      exact h.course next (hnext ▸ hn)
    · rw [hscript]
      exact h.silent (hnext ▸ hn)
  -- A step to a place of the call that its script has come to.
  have comes {x' : Process} {next : Next} (hclient : x'.client = x.client)
      (hnext : x'.phase.next? = some next) (hcourse : Course x.client x'.script next) :
      x'.Scripted := by
    refine ⟨fun next' hn => ?_, fun hn => ?_⟩
    · rw [hnext] at hn
      cases hn
      rw [hclient]
      exact hcourse
    · rw [hnext] at hn
      cases hn
  cases hst with
  | remote hphase hremote =>
      refine comes rfl rfl ?_
      have hnil := hquiet hphase rfl rfl
      simp only [Process.script, Process.after, Process.exchange, Phase.todo, hnil]
      exact .remote
  | monitor hphase hlocal =>
      have hphase' : x.phase = .idle := hphase
      refine keeps rfl ?_ (by rw [hphase']; rfl)
      simp [Process.script, Process.after, Process.exchange, Phase.todo, hphase']
  | alive hphase howner =>
      refine comes rfl rfl ?_
      have hnil := hquiet hphase rfl rfl
      simp only [Process.script, Process.after, Process.exchange, Phase.todo, hnil]
      exact .request
  | notAlive hphase howner =>
      have hphase' : x.phase = .monitored := hphase
      refine keeps rfl ?_ (by rw [hphase']; rfl)
      simp [Process.script, Process.after, Process.exchange, Phase.todo, hphase']
  | downReason hphase hreceive =>
      refine comes rfl rfl ?_
      have hnil := hquiet hphase rfl rfl
      simp only [Process.script, Process.after, Process.exchange, Phase.todo, hnil]
      exact .ownerDown
  | noReason hphase hreceive =>
      refine comes rfl rfl ?_
      have hnil := hquiet hphase rfl rfl
      simp only [Process.script, Process.after, Process.exchange, Phase.todo, hnil]
      exact .ownerDown
  | @act action todo next hphase =>
      have hphase' : x.phase = .running (action :: todo) next := hphase
      refine keeps rfl ?_ (by rw [hphase']; rfl)
      cases action <;>
        simp [Process.script, Process.after, Process.exchange,
          Exchange.perform, Phase.todo, hphase']
  | await hphase =>
      have hphase' : x.phase = .running [] (.await _) := hphase
      refine keeps rfl ?_ (by rw [hphase']; rfl)
      simp [Process.script, Process.after, Process.exchange, Phase.todo, hphase']
  | returns hphase =>
      have hphase' : x.phase = .running [] (.returns _) := hphase
      refine keeps rfl ?_ (by rw [hphase']; rfl)
      simp [Process.script, Process.after, Process.exchange, Phase.todo, hphase']
  | @receive a clause box hphase hreceive =>
      have hphase' : x.phase = .waiting a := hphase
      obtain ⟨_, m, _, -, -, hclause, -⟩ := Mailbox.receive_some hreceive
      have hcourse := h.course (.await a) (by rw [hphase']; rfl)
      refine comes rfl rfl ?_
      have hscript := hcourse.receive hclause
      simpa [Process.script, Process.after, Process.exchange, Phase.todo, hphase'] using hscript
  | @expire a hphase hreceive =>
      have hphase' : x.phase = .waiting a := hphase
      have hcourse := h.course (.await a) (by rw [hphase']; rfl)
      refine comes rfl rfl ?_
      have hscript := hcourse.expire
      simpa [Process.script, Process.after, Process.exchange, Phase.todo, hphase'] using hscript
  | deliver _ _ => exact keeps rfl rfl rfl
  | discard _ _ => exact keeps rfl rfl rfl
  | disturb => exact keeps rfl rfl rfl
  | owner _ _ _ _ => cases hown
  | kill _ _ => cases hown

/-! ## The two scripts with a lease -/

section

variable {c : Client} {backendToken metadata : Term} {lease : Lease} {childHolder : Ref}
  {valid : AbandonmentGuard → Bool} {messages : List Message} {next : Next}

/-- The script of an issue. -/
inductive IssueCourse (c : Client) (backendToken metadata : Term) : List Message → Next → Prop where
  | unsent {reason} : IssueCourse c backendToken metadata [] (.returns (.callerOwned reason))
  | reserving :
      IssueCourse c backendToken metadata [.reserveIssue metadata c.self c.requestRef]
        (.await (.issueReservation backendToken))
  | refused {reason} :
      IssueCourse c backendToken metadata [.reserveIssue metadata c.self c.requestRef]
        (.returns (.callerOwned reason))
  | expired :
      IssueCourse c backendToken metadata
        [.reserveIssue metadata c.self c.requestRef, .cancelIssueReservation c.requestRef]
        (.returns (.callerOwned .timeout))
  | committing {reservation} :
      IssueCourse c backendToken metadata
        [.reserveIssue metadata c.self c.requestRef,
          .commitIssue reservation backendToken c.self c.requestRef]
        (.await .committedIssue)
  | rejected {reservation reason} :
      IssueCourse c backendToken metadata
        [.reserveIssue metadata c.self c.requestRef,
          .commitIssue reservation backendToken c.self c.requestRef]
        (.returns (.transferred reason))
  | confirmed {reservation} {lease : Lease} :
      IssueCourse c backendToken metadata
        [.reserveIssue metadata c.self c.requestRef,
          .commitIssue reservation backendToken c.self c.requestRef,
          .confirmIssue lease.token c.requestRef]
        (.returns (.ok lease))
  | cancelled {reservation} :
      IssueCourse c backendToken metadata
        [.reserveIssue metadata c.self c.requestRef,
          .commitIssue reservation backendToken c.self c.requestRef, .cancelIssue c.requestRef]
        (.returns (.transferred .timeout))

/-- The script of a retain. -/
inductive RetainCourse (c : Client) (lease : Lease) (childHolder : Ref)
    (valid : AbandonmentGuard → Bool) : List Message → Next → Prop where
  | unsent {reason} : RetainCourse c lease childHolder valid [] (.returns (.error reason))
  | retaining :
      RetainCourse c lease childHolder valid
        [.retain lease.token lease.holder childHolder c.self c.requestRef]
        (.await (.retain lease childHolder valid))
  | refused {reason} :
      RetainCourse c lease childHolder valid
        [.retain lease.token lease.holder childHolder c.self c.requestRef]
        (.returns (.error reason))
  | confirmed {childGuard} :
      RetainCourse c lease childHolder valid
        [.retain lease.token lease.holder childHolder c.self c.requestRef,
          .confirmRetain lease.token childHolder c.requestRef]
        (.returns (.ok { lease with holder := childHolder, abandonmentGuard := childGuard }))
  | cancelled {reason} :
      RetainCourse c lease childHolder valid
        [.retain lease.token lease.holder childHolder c.self c.requestRef,
          .cancelRetain lease.token childHolder]
        (.returns (.error reason))

theorem Course.issue (hcall : c.call = .issue backendToken metadata) (h : Course c messages next) :
    IssueCourse c backendToken metadata messages next := by
  induction h with
  | request =>
      simp only [Client.request, Client.awaits, hcall]
      exact .reserving
  | remote =>
      simp only [Client.remote, hcall]
      exact .unsent
  | ownerDown =>
      simp only [Client.ownerDown, hcall]
      exact .unsent
  | @receive messages a seen clause _ hclause ih =>
      cases ih with
      | reserving =>
          rcases seen with ((_ | _) | _ | _ | _) | _ | _ <;> cases hclause
          · exact .refused
          · exact .committing
          · exact .refused
      | committing =>
          rcases seen with (_ | (_ | _) | _ | _) | _ | _ <;> cases hclause
          · exact .rejected
          · exact .confirmed
          · exact .rejected
  | expire _ ih =>
      cases ih with
      | reserving => exact .expired
      | committing => exact .cancelled

theorem Course.retain (hcall : c.call = .retain lease childHolder valid)
    (h : Course c messages next) : RetainCourse c lease childHolder valid messages next := by
  induction h with
  | request =>
      simp only [Client.request, Client.awaits, hcall]
      exact .retaining
  | remote =>
      simp only [Client.remote, hcall]
      exact .unsent
  | ownerDown =>
      simp only [Client.ownerDown, hcall]
      exact .unsent
  | @receive messages a seen clause _ hclause ih =>
      cases ih with
      | retaining =>
          rcases seen with (_ | _ | (_ | childGuard) | _) | _ | _ <;>
            simp only [Await.clauses, awaitRetain, reduceCtorEq, Option.some.injEq] at hclause
          · cases hclause
            exact .refused
          · split at hclause <;> cases hclause
            · exact .confirmed
            · exact .cancelled
          · cases hclause
            exact .refused
  | expire _ ih =>
      cases ih with
      | retaining => exact .cancelled

end

end VideoInterop.LeaseOwner
