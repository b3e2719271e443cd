import VideoInterop.Dispatcher.Stages

/-!
# The admission barrier

What every order of turns keeps, and from it: nothing is dispatched once `Stop` was
sent, the worker handles all that was dispatched before it leaves, and no turn ends
the process.
-/

namespace VideoInterop.Dispatcher

/-! ## The system, stage by stage -/

/-- The stages of all calls. -/
def World.stages (w : World) : List Stage := w.calls.map Point.stage

/-- Where the worker has received `Stop`. -/
def Worker.left : Worker → Bool
  | .leaving | .finished => true
  | _ => false

/-- Is it `Stop`? -/
def WorkerCommand.isStop : WorkerCommand → Bool
  | .stop => true
  | _ => false

/-- What the worker does in a turn. -/
inductive Works (d : ReleaseDispatcher) : ReleaseDispatcher → Prop where
  | receive {command rest} (hthread : d.thread = .receiving)
      (hqueue : d.queue = .dispatch command :: rest) :
      Works d { d with queue := rest, thread := .sending command }
  | stop {rest} (hthread : d.thread = .receiving) (hqueue : d.queue = .stop :: rest) :
      Works d { d with queue := rest, thread := .leaving }
  | send {command count} (hthread : d.thread = .sending command) :
      Works d { d with thread := .receiving, undeliveredCommands := count }
  | finish (hthread : d.thread = .leaving) : Works d { d with thread := .finished }

/-- What an input does to the dispatcher and to the stages of the calls. -/
inductive Shifts (d : ReleaseDispatcher) (stages : List Stage) :
    ReleaseDispatcher → List Stage → Prop where
  | turn {i s s' d' stages'} (hturn : Threads.Turn stages i s s' stages')
      (hmoves : Moves d s d' s') : Shifts d stages d' stages'
  | start {guards} : Shifts d stages { d with guards := guards } (stages ++ [.outside])
  | work {d'} (hworks : Works d d') : Shifts d stages d' stages
  | guards {guards} : Shifts d stages { d with guards := guards } stages

variable {d d' : ReleaseDispatcher} {s s' : Stage} {stages stages' : List Stage} {w w' : World}
  {i : Input}

theorem work_works {delivered : Bool} (h : work d delivered = some d') : Works d d' := by
  unfold work at h
  split at h
  · next hthread =>
      split at h
      · next hqueue =>
          cases h
          exact .receive hthread hqueue
      · next hqueue =>
          cases h
          exact .stop hthread hqueue
      · cases h
  · next hthread =>
      cases h
      exact .send hthread
  · next hthread =>
      cases h
      exact .finish hthread
  · cases h

theorem prepareCloexec_stage (binary : Bool) (lease : Option Lease) :
    (prepareCloexec binary lease).stage = .outside := by
  cases binary <;> cases lease <;> rfl

theorem World.call_stages (w : World) {p : Point} (hp : p.stage = .outside) :
    (w.call p).stages = w.stages ++ [.outside] := by
  show (w.calls ++ [p]).map Point.stage = w.calls.map Point.stage ++ [.outside]
  rw [List.map_append, List.map_singleton, hp]

/-- What an input does, when no turn ends the process. -/
inductive Steps (w : World) : Input → World → Prop where
  | newGuard {owner token holder} :
      Steps w (.newGuard owner token holder)
        (w.call (.acquire (.guard ⟨.abandoned, owner, token, holder⟩)))
  | prepare {lease} (h : lease.referenced w.dispatcher) :
      Steps w (.prepare false (some lease))
        { w with
          dispatcher := w.dispatcher.keep lease
          calls := w.calls ++ [.acquire (.prepare lease)] }
  /-- There is no lease, or one that does not go with the storage. -/
  | withoutLease {binary lease} (h : binary = true ∨ lease = none) :
      Steps w (.prepare binary lease) (w.call (prepareCloexec binary lease))
  | closeAndJoin : Steps w .closeAndJoin (w.call .closeAndJoin)
  | turn {call go p p' d} (hp : w.calls[call]? = some p)
      (h : turn w.dispatcher go p = some (.next d p')) :
      Steps w (.turn call go) { w with dispatcher := d, calls := w.calls.set call p' }
  | work {delivered d} (h : work w.dispatcher delivered = some d) :
      Steps w (.work delivered) { w with dispatcher := d }
  | copyTerm {g guard} (h : w.dispatcher.guards[g]? = some guard) (hterms : 0 < guard.terms) :
      Steps w (.copyTerm g)
        { w with dispatcher := w.dispatcher.mapGuard (some g) fun guard =>
          { guard with terms := guard.terms + 1 } }
  | dropTerm {g guard} (h : w.dispatcher.guards[g]? = some guard) (hterms : 0 < guard.terms) :
      Steps w (.dropTerm g)
        { w with dispatcher := w.dispatcher.mapGuard (some g) fun guard =>
          { guard with terms := guard.terms - 1 } }
  | destroy {g command} (h : w.dispatcher.guards[g]? = some ⟨some command, 0, 0⟩) :
      Steps w (.destroy g)
        { w with
          dispatcher := w.dispatcher.mapGuard (some g) fun guard => { guard with command := none }
          calls := w.calls ++ [.acquire (.abandoned command)] }

/-- An input takes its step, or a turn ends the process. -/
theorem step_steps (h : step w i = some w') :
    (w.fatal = none ∧ Steps w i w') ∨
      ∃ (call : Nat) (go : Bool) (p : Point) (reason : Fatal), w.calls[call]? = some p ∧
        turn w.dispatcher go p = some (.abort reason) := by
  unfold step at h
  split at h
  · cases h
  · next hfatal =>
      have hnone : w.fatal = none := by simpa using hfatal
      cases i with
      | newGuard owner token holder =>
          cases h
          exact .inl ⟨hnone, .newGuard⟩
      | prepare binary lease =>
          cases binary with
          | true =>
              cases lease <;> cases h <;> exact .inl ⟨hnone, .withoutLease (.inl rfl)⟩
          | false =>
              cases lease with
              | none =>
                  cases h
                  exact .inl ⟨hnone, .withoutLease (.inr rfl)⟩
              | some lease =>
                  simp only [prepareCloexec] at h
                  split at h
                  · next hreferenced =>
                      cases h
                      exact .inl ⟨hnone, .prepare hreferenced⟩
                  · cases h
      | closeAndJoin =>
          cases h
          exact .inl ⟨hnone, .closeAndJoin⟩
      | turn call go =>
          simp only at h
          split at h
          · cases h
          · next p hp =>
              split at h
              · cases h
              · next d p' hturn =>
                  cases h
                  exact .inl ⟨hnone, .turn hp hturn⟩
              · next reason hturn => exact .inr ⟨call, go, p, reason, hp, hturn⟩
      | work delivered =>
          obtain ⟨d, hwork, rfl⟩ := Option.map_eq_some_iff.mp h
          exact .inl ⟨hnone, .work hwork⟩
      | copyTerm g =>
          simp only at h
          split at h
          · next guard hguard =>
              split at h
              · next hterms =>
                  cases h
                  exact .inl ⟨hnone, .copyTerm hguard hterms⟩
              · cases h
          · cases h
      | dropTerm g =>
          simp only at h
          split at h
          · next guard hguard =>
              split at h
              · next hterms =>
                  cases h
                  exact .inl ⟨hnone, .dropTerm hguard hterms⟩
              · cases h
          · cases h
      | destroy g =>
          simp only at h
          split at h
          · next command hguard =>
              cases h
              exact .inl ⟨hnone, .destroy hguard⟩
          · cases h

theorem Steps.fatal (h : Steps w i w') : w'.fatal = w.fatal := by
  cases h <;> rfl

/-- An input shifts the dispatcher and the stages of the calls. -/
theorem Steps.shifts (h : Steps w i w') :
    Shifts w.dispatcher w.stages w'.dispatcher w'.stages := by
  have start (guards : List AbandonmentGuard) {p : Point} (hp : p.stage = .outside) :
      Shifts w.dispatcher w.stages { w.dispatcher with guards := guards }
        ((w.call p).stages) := by
    rw [w.call_stages hp]
    exact .start
  cases h with
  | newGuard => exact start w.dispatcher.guards rfl
  | @prepare lease _ =>
      obtain ⟨guards, heq⟩ := mapGuard_eq lease.abandonmentGuard
        (fun guard => { guard with kept := guard.kept + 1 }) w.dispatcher
      show Shifts w.dispatcher w.stages (w.dispatcher.mapGuard _ _) _
      rw [heq]
      exact start guards rfl
  | @withoutLease binary lease _ =>
      exact start w.dispatcher.guards (prepareCloexec_stage binary lease)
  | closeAndJoin => exact start w.dispatcher.guards rfl
  | @turn call go p p' d hp hturn =>
      have hstage : w.stages[call]? = some p.stage := by
        rw [World.stages, List.getElem?_map, hp]
        rfl
      show Shifts w.dispatcher w.stages d ((w.calls.set call p').map Point.stage)
      rw [List.map_set]
      exact .turn (.mk hstage) (turn_fits hturn)
  | work hwork => exact .work (work_works hwork)
  | copyTerm _ _ => exact .guards
  | dropTerm _ _ => exact .guards
  | destroy _ => exact start _ rfl

/-! ## What a move changes -/

theorem Moves.thread (h : Moves d s d' s') : d'.thread = d.thread := by
  cases h <;> rfl

theorem Moves.clients (h : Moves d s d' s') :
    d'.activeClients + s.counted.toNat = d.activeClients + s'.counted.toNat := by
  cases h with
  | withdraw h =>
      simp only [Stage.counted, Bool.toNat_true, Bool.toNat_false]
      omega
  | leave h =>
      simp only [Stage.counted, Bool.toNat_true, Bool.toNat_false]
      omega
  | lock _ hs => rcases hs with rfl | rfl <;> rfl
  | unavailable _ hs => rcases hs with ⟨rfl, -⟩ | ⟨rfl, -⟩ <;> rfl
  | unlock hs => rcases hs with ⟨rfl, rfl⟩ | ⟨rfl, rfl⟩ | ⟨rfl, rfl⟩ | ⟨rfl, rfl⟩ <;> rfl
  | _ => rfl

/-- A move that needs the mutex has it. -/
theorem Moves.locked (h : Moves d s d' s') (hheld : s.holdsLock = true → d.locked = true) :
    d'.locked.toNat + s.holdsLock.toNat = d.locked.toNat + s'.holdsLock.toNat := by
  cases h with
  | lock hfree hs =>
      rw [hfree]
      rcases hs with rfl | rfl <;> rfl
  | unavailable _ hs => rcases hs with ⟨rfl, -⟩ | ⟨rfl, -⟩ <;> rfl
  | unlock hs =>
      rcases hs with ⟨rfl, rfl⟩ | ⟨rfl, rfl⟩ | ⟨rfl, rfl⟩ | ⟨rfl, rfl⟩ <;> rw [hheld rfl] <;> rfl
  | _ => rfl

/-- The health goes from healthy to stopping to stopped. -/
theorem Moves.health (h : Moves d s d' s') :
    d'.health = d.health ∨ (d.health = .healthy ∧ d'.health = .stopping) ∨
      (s = .joining ∧ d'.health = .stopped) := by
  cases h with
  | begin hhealthy => exact .inr (.inl ⟨hhealthy, rfl⟩)
  | publish => exact .inr (.inr ⟨rfl, rfl⟩)
  | _ => exact .inl rfl

/-- A thread knows that the dispatcher is closing when it has looked. -/
theorem Moves.informed (h : Moves d s d' s') (hs : s.informed = true → d.health ≠ .healthy) :
    s'.informed = true → d'.health ≠ .healthy := by
  cases h with
  | stay => exact hs
  | enter => exact nofun
  | grant _ => exact nofun
  | back => exact nofun
  | send _ => exact nofun
  | leave _ => exact nofun
  | sawFailed _ => exact nofun
  | deny hhealth => exact fun _ => hhealth
  | refuse hhealth => exact fun _ => hhealth
  | begun hhealth => exact fun _ => hhealth
  | begin _ => exact fun _ => by simp
  | publish => exact fun _ => by simp
  | unlock hhs =>
      refine fun _ => hs ?_
      rcases hhs with ⟨rfl, -⟩ | ⟨rfl, -⟩ | ⟨rfl, -⟩ | ⟨rfl, -⟩ <;> rfl
  | unavailable _ hhs =>
      refine fun _ => hs ?_
      rcases hhs with ⟨rfl, -⟩ | ⟨rfl, -⟩ <;> rfl
  | _ => exact fun _ => hs rfl

/-- Who comes past the clients has seen none. -/
theorem Moves.past (h : Moves d s d' s') (hs' : s'.past = true) :
    s.past = true ∨ (s = .waiting ∧ d.activeClients = 0) := by
  cases h with
  | stay => exact .inl hs'
  | pass hzero => exact .inr ⟨rfl, hzero⟩
  | unavailable _ hs => rcases hs with ⟨rfl, -⟩ | ⟨rfl, -⟩ <;> exact .inl rfl
  | unlock hs => rcases hs with ⟨rfl, -⟩ | ⟨rfl, -⟩ | ⟨rfl, -⟩ | ⟨rfl, -⟩ <;> exact .inl rfl
  | enter => cases hs'
  | grant _ => cases hs'
  | deny _ => cases hs'
  | withdraw _ => cases hs'
  | refuse _ => cases hs'
  | back => cases hs'
  | send _ => cases hs'
  | leave _ => cases hs'
  | begun _ => cases hs'
  | begin _ => cases hs'
  | giveUp => cases hs'
  | sawFailed _ => cases hs'
  | _ => exact .inl rfl

/-- Nobody comes back from there. -/
theorem Moves.stays_past (h : Moves d s d' s') (hs : s.past = true) (hfailed : d.health ≠ .failed) :
    s'.past = true := by
  cases h with
  | stay => exact hs
  | sawFailed h => exact absurd h hfailed
  | lock _ hs => rcases hs with rfl | rfl <;> rfl
  | unlock hs => rcases hs with ⟨-, rfl⟩ | ⟨-, rfl⟩ | ⟨-, rfl⟩ | ⟨-, rfl⟩ <;> rfl
  | enter => cases hs
  | grant _ => cases hs
  | deny _ => cases hs
  | withdraw _ => cases hs
  | refuse _ => cases hs
  | back => cases hs
  | send _ => cases hs
  | leave _ => cases hs
  | begun _ => cases hs
  | begin _ => cases hs
  | giveUp => cases hs
  | _ => rfl

theorem Moves.inside (h : Moves d s d' s') (hs' : s' = .inside) :
    s = .inside ∨ d.health = .healthy := by
  cases h with
  | stay => exact .inl hs'
  | grant hhealthy => exact .inr hhealthy
  | send _ => exact .inl rfl
  | lock _ hs => rcases hs with rfl | rfl <;> cases hs'
  | unlock hs => rcases hs with ⟨-, rfl⟩ | ⟨-, rfl⟩ | ⟨-, rfl⟩ | ⟨-, rfl⟩ <;> cases hs'
  | _ => cases hs'

/-- The handle is taken once, when the thread has exited. -/
theorem Moves.taken (h : Moves d s d' s') :
    (d'.joining = d.joining ∧ d'.worker = d.worker) ∨
      (d.joining = false ∧ d.thread.isFinished = true ∧ d'.joining = true ∧ d'.worker = false ∧
        s = .inspecting ∧ s' = .taken ∧ d'.health = d.health) := by
  cases h with
  | take _ hjoining hthread => exact .inr ⟨hjoining, hthread, rfl, rfl, rfl, rfl, rfl⟩
  | _ => exact .inl ⟨rfl, rfl⟩

/-- The one who has taken it has it until the dispatcher is stopped. -/
theorem Moves.joins (h : Moves d s d' s') (hpublish : s = .joining → d.health ≠ .stopped) :
    s'.joins.toNat + (decide (d'.health = .stopped)).toNat + d.joining.toNat =
      s.joins.toNat + (decide (d.health = .stopped)).toNat + d'.joining.toNat := by
  cases h with
  | begin hhealthy =>
      rw [hhealthy]
      rfl
  | lock _ hs => rcases hs with rfl | rfl <;> rfl
  | unavailable _ hs => rcases hs with ⟨rfl, -⟩ | ⟨rfl, -⟩ <;> rfl
  | unlock hs => rcases hs with ⟨rfl, rfl⟩ | ⟨rfl, rfl⟩ | ⟨rfl, rfl⟩ | ⟨rfl, rfl⟩ <;> rfl
  | take _ hjoining _ =>
      rw [hjoining]
      simp only [Stage.joins, Bool.toNat_true, Bool.toNat_false]
      omega
  | publish =>
      rw [decide_eq_false (hpublish rfl)]
      simp [Stage.joins]
  | _ => rfl

/-- Whether `Stop` is in the queue or said to be sent. -/
theorem Moves.stops (h : Moves d s d' s') (hmark : s.unmarked = true → d.stopEnqueued = false) :
    d'.queue.countP WorkerCommand.isStop + d.stopEnqueued.toNat + (s == .marking).toNat =
      d.queue.countP WorkerCommand.isStop + d'.stopEnqueued.toNat + (s' == .marking).toNat := by
  cases h with
  | send _ => simp [WorkerCommand.isStop]
  | stop _ =>
      have hone : (Stage.stopping == Stage.marking) = false := rfl
      simp only [List.countP_append, List.countP_singleton, WorkerCommand.isStop, hone]
      simp
      omega
  | mark => simp [hmark rfl]
  | lock _ hs => rcases hs with rfl | rfl <;> rfl
  | unavailable _ hs => rcases hs with ⟨rfl, -⟩ | ⟨rfl, -⟩ <;> rfl
  | unlock hs => rcases hs with ⟨rfl, rfl⟩ | ⟨rfl, rfl⟩ | ⟨rfl, rfl⟩ | ⟨rfl, rfl⟩ <;> rfl
  | _ => rfl

/-- Who is about to send `Stop` has found that it was not. -/
theorem Moves.unmarked (h : Moves d s d' s') (hmark : s.unmarked = true → d.stopEnqueued = false) :
    s'.unmarked.toNat + d'.stopEnqueued.toNat = s.unmarked.toNat + d.stopEnqueued.toNat ∨
      (s = .checking ∧ s' = .stopping ∧ d.stopEnqueued = false ∧ d'.stopEnqueued = false) := by
  cases h with
  | unstopped _ hstop _ => exact .inr ⟨rfl, rfl, hstop, hstop⟩
  | mark => exact .inl (by simp [hmark rfl, Stage.unmarked])
  | lock _ hs => rcases hs with rfl | rfl <;> exact .inl rfl
  | unavailable _ hs => rcases hs with ⟨rfl, -⟩ | ⟨rfl, -⟩ <;> exact .inl rfl
  | unlock hs => rcases hs with ⟨rfl, rfl⟩ | ⟨rfl, rfl⟩ | ⟨rfl, rfl⟩ | ⟨rfl, rfl⟩ <;> exact .inl rfl
  | _ => exact .inl rfl

/-- Only granted clients and the one closer put commands into the queue. -/
theorem Moves.queue (h : Moves d s d' s') :
    d'.queue = d.queue ∨
      (∃ command, d'.queue = d.queue ++ [command] ∧ d.thread.isFinished = false ∧
        (s = .inside ∧ command.isStop = false ∨ s = .stopping ∧ command.isStop = true)) := by
  cases h with
  | send hthread => exact .inr ⟨_, rfl, hthread, .inl ⟨rfl, rfl⟩⟩
  | stop hthread => exact .inr ⟨_, rfl, hthread, .inr ⟨rfl, rfl⟩⟩
  | _ => exact .inl rfl

theorem Moves.closed (h : Moves d s d' s') (hs : s = .closed → d.health = .stopped)
    (hs' : s' = .closed) : d'.health = .stopped := by
  cases h with
  | stay => exact hs hs'
  | publish => rfl
  | sawStopped hstopped => exact hstopped
  | lock _ hs => rcases hs with rfl | rfl <;> cases hs'
  | unlock hs => rcases hs with ⟨-, rfl⟩ | ⟨-, rfl⟩ | ⟨-, rfl⟩ | ⟨-, rfl⟩ <;> cases hs'
  | _ => cases hs'

/-- Who finds the handle gone. -/
theorem Moves.lost (h : Moves d s d' s') (hs' : s' = .unavailable ∨ s' = .lost) :
    (s = .unavailable ∨ s = .lost) ∨
      (d.worker = false ∧ (s = .checking ∧ d.stopEnqueued = false ∨ d.joining = false)) := by
  cases h with
  | stay => exact .inl hs'
  | unavailable hworker hs =>
      refine .inr ⟨hworker, ?_⟩
      rcases hs with ⟨rfl, -, hstop⟩ | ⟨-, hjoining⟩
      · exact .inl ⟨rfl, hstop⟩
      · exact .inr hjoining
  | lock _ hs => rcases hs with rfl | rfl <;> rcases hs' with h | h <;> cases h
  | unlock hs =>
      rcases hs with ⟨-, rfl⟩ | ⟨-, rfl⟩ | ⟨rfl, -⟩ | ⟨-, rfl⟩
      · rcases hs' with h | h <;> cases h
      · rcases hs' with h | h <;> cases h
      · exact .inl (.inl rfl)
      · rcases hs' with h | h <;> cases h
  | _ => rcases hs' with h | h <;> cases h

/-! ## What every order of turns keeps -/

/-- The clients, the mutex, the handle and `Stop` are accounted for by the stages of
the calls. -/
structure Sound (d : ReleaseDispatcher) (stages : List Stage) : Prop where
  /-- The clients are those counted. -/
  clients : d.activeClients = stages.countP Stage.counted
  /-- One call holds the mutex when it is held, none otherwise. -/
  lock : stages.countP Stage.holdsLock = d.locked.toNat
  /-- The join handle is gone when somebody joins. -/
  handle : d.worker = !d.joining
  /-- One call joins, or it has stopped the dispatcher. -/
  joiners : stages.countP Stage.joins + (decide (d.health = .stopped)).toNat = d.joining.toNat
  /-- Nobody joins before the worker has exited. -/
  exited : d.joining = true → d.thread.isFinished = true
  /-- The dispatcher never fails. -/
  failed : d.health ≠ .failed
  /-- A call has not seen another health without reason. -/
  informed : ∀ s ∈ stages, s.informed = true → d.health ≠ .healthy
  /-- Nobody is inside once a closer has come past the clients. -/
  barrier : (∃ s ∈ stages, s.past = true) → ∀ s ∈ stages, s ≠ .inside
  /-- One closer at most is to mark `Stop`, and not once it is marked. -/
  unmarked : stages.countP Stage.unmarked + d.stopEnqueued.toNat ≤ 1
  /-- `Stop` was sent by a closer that had come past the clients. -/
  passed : d.stopEnqueued = true → ∃ s ∈ stages, s.past = true
  /-- `Stop` is sent once, and it is the last command. -/
  stops : d.queue.countP WorkerCommand.isStop + d.thread.left.toNat =
    d.stopEnqueued.toNat + stages.countP (· == .marking)
  /-- Nothing is behind `Stop` in the queue. -/
  last : d.queue.dropLast.countP WorkerCommand.isStop = 0
  /-- A worker that has received `Stop` has left nothing. -/
  drained : d.thread.left = true → d.queue = []
  /-- A closer is through when the dispatcher is stopped. -/
  closed : ∀ s ∈ stages, s = .closed → d.health = .stopped
  /-- No closer fails for want of a worker. -/
  available : ∀ s ∈ stages, ¬(s = .unavailable ∨ s = .lost)

theorem Sound.start : Sound .start [] where
  clients := rfl
  lock := rfl
  handle := rfl
  joiners := rfl
  exited := nofun
  failed := nofun
  informed := nofun
  barrier := fun _ => nofun
  unmarked := Nat.zero_le 1
  passed := nofun
  stops := rfl
  last := rfl
  drained := nofun
  closed := nofun
  available := nofun

/-- Guards do not matter to it. -/
theorem Sound.guards (h : Sound d stages) (guards : List AbandonmentGuard) :
    Sound { d with guards := guards } stages :=
  ⟨h.clients, h.lock, h.handle, h.joiners, h.exited, h.failed, h.informed, h.barrier, h.unmarked,
    h.passed, h.stops, h.last, h.drained, h.closed, h.available⟩

/-- `Stop` is not in the queue before it was sent. -/
theorem Sound.unsent (h : Sound d stages) (hstop : d.stopEnqueued = false)
    (hmarking : stages.countP (· == .marking) = 0) :
    d.queue.countP WorkerCommand.isStop = 0 ∧ d.thread.left = false := by
  have hsum := h.stops
  rw [hstop, hmarking, Bool.toNat_false] at hsum
  refine ⟨by omega, ?_⟩
  cases hleft : d.thread.left with
  | false => rfl
  | true =>
      rw [hleft, Bool.toNat_true] at hsum
      omega

section

variable (h : Sound d stages) (hs : s ∈ stages)

include h hs

theorem Sound.locked (hlock : s.holdsLock = true) : d.locked = true := by
  have hpos := Threads.countP_pos hs hlock
  rw [h.lock] at hpos
  cases hd : d.locked with
  | false => rw [hd] at hpos; cases hpos
  | true => rfl

/-- The mutex is held by one call. -/
theorem Sound.alone (hlock : s.holdsLock = true) {f : Stage → Bool}
    (hf : ∀ s, f s = true → s.holdsLock = true) (hother : f s = false) : stages.countP f = 0 := by
  have hle := Threads.countP_add_le (f := f) (g := fun s' => s' == s) (h := Stage.holdsLock) hf
    (fun s' heq => by rw [beq_iff_eq.mp heq]; exact hlock)
    (fun s' hs' => beq_eq_false_iff_ne.mpr fun heq => by rw [heq, hother] at hs'; cases hs') stages
  have hpos : 0 < stages.countP fun s' => s' == s := Threads.countP_pos hs (beq_self_eq_true s)
  have hone : d.locked.toNat ≤ 1 := Bool.toNat_le _
  rw [h.lock] at hle
  omega

theorem Sound.unstopped (hmark : s.unmarked = true) : d.stopEnqueued = false := by
  have hpos := Threads.countP_pos hs hmark
  have hle := h.unmarked
  cases hd : d.stopEnqueued with
  | false => rfl
  | true => rw [hd, Bool.toNat_true] at hle; omega

theorem Sound.unpublished (hjoin : s = .joining) : d.health ≠ .stopped := by
  intro hstopped
  have hpos := Threads.countP_pos (f := Stage.joins) hs (by rw [hjoin]; rfl)
  have hsum := h.joiners
  have hone : d.joining.toNat ≤ 1 := Bool.toNat_le _
  rw [decide_eq_true hstopped, Bool.toNat_true] at hsum
  omega

/-- Nobody has sent `Stop` while a granted client is there. -/
theorem Sound.before_stop (hinside : s = .inside) :
    d.queue.countP WorkerCommand.isStop = 0 ∧ d.thread.left = false := by
  have hnone : ¬∃ s ∈ stages, s.past = true := fun hpast => h.barrier hpast s hs hinside
  have hstop : d.stopEnqueued = false := by
    cases hd : d.stopEnqueued with
    | false => rfl
    | true => exact absurd (h.passed hd) hnone
  have hmarking : stages.countP (· == .marking) = 0 := by
    refine List.countP_eq_zero.mpr fun s' hs' heq => hnone ⟨s', hs', ?_⟩
    rw [beq_iff_eq.mp heq]
    rfl
  exact h.unsent hstop hmarking

/-- The one who is about to send `Stop` is the first. -/
theorem Sound.first_stop (hstopping : s = .stopping) :
    d.queue.countP WorkerCommand.isStop = 0 ∧ d.thread.left = false := by
  have hstop : d.stopEnqueued = false := h.unstopped hs (by rw [hstopping]; rfl)
  have hmarking : stages.countP (· == .marking) = 0 := by
    refine h.alone hs (by rw [hstopping]; rfl) (fun s' heq => ?_) (by rw [hstopping]; rfl)
    rw [beq_iff_eq.mp heq]
    rfl
  exact h.unsent hstop hmarking

end

theorem Worker.left_of_finished {thread : Worker} (h : thread.isFinished = true) :
    thread.left = true := by
  cases thread <;> first | rfl | cases h

/-- The handle is not gone before the dispatcher was stopped. -/
theorem Sound.not_lost (h : Sound d stages) (hs : s ∈ stages) (hworker : d.worker = false)
    (hlost : s = .checking ∧ d.stopEnqueued = false ∨ d.joining = false) : False := by
  have hjoining : d.joining = true := by
    have hhandle := h.handle
    rw [hworker] at hhandle
    simpa using hhandle
  rcases hlost with ⟨hchecking, hstop⟩ | hnone
  · have hmarking : stages.countP (· == .marking) = 0 := by
      refine h.alone hs (by rw [hchecking]; rfl) (fun s' heq => ?_) (by rw [hchecking]; rfl)
      rw [beq_iff_eq.mp heq]
      rfl
    have hleft := (h.unsent hstop hmarking).2
    rw [Worker.left_of_finished (h.exited hjoining)] at hleft
    cases hleft
  · rw [hjoining] at hnone
    cases hnone

/-- **No turn ends the process.** -/
theorem Sound.aborts {reason : Fatal} (h : Sound d stages) (hs : s ∈ stages)
    (habort : Aborts d s reason) : False := by
  cases habort with
  | unexpectedly hthread =>
      have hleft := (h.before_stop hs rfl).2
      rw [Worker.left_of_finished hthread] at hleft
      cases hleft
  | beforeJoin hthread =>
      have hleft := (h.first_stop hs rfl).2
      rw [Worker.left_of_finished hthread] at hleft
      cases hleft
  | underflow hzero hcounted =>
      have hpos := Threads.countP_pos (f := Stage.counted) hs
        (by rcases hcounted with rfl | rfl <;> rfl)
      rw [← h.clients, hzero] at hpos
      cases hpos
  | notAdmitted hhealth =>
      rcases hhealth with hhealth | hhealth
      · exact h.informed _ hs rfl hhealth
      · exact h.failed hhealth

/-! ### Turns of the calls -/

theorem Moves.not_failed (h : Moves d s d' s') (hfailed : d.health ≠ .failed) :
    d'.health ≠ .failed := by
  rcases h.health with heq | ⟨-, heq⟩ | ⟨-, heq⟩
  · rw [heq]
    exact hfailed
  · rw [heq]
    exact nofun
  · rw [heq]
    exact nofun

theorem Moves.not_healthy (h : Moves d s d' s') (hhealth : d.health ≠ .healthy) :
    d'.health ≠ .healthy := by
  rcases h.health with heq | ⟨-, heq⟩ | ⟨-, heq⟩
  · rw [heq]
    exact hhealth
  · rw [heq]
    exact nofun
  · rw [heq]
    exact nofun

/-- A stopped dispatcher stays stopped. -/
theorem Moves.stays_stopped (h : Moves d s d' s') (hhealth : d.health = .stopped) :
    d'.health = .stopped := by
  rcases h.health with heq | ⟨hhealthy, -⟩ | ⟨-, heq⟩
  · rw [heq, hhealth]
  · rw [hhealth] at hhealthy
    cases hhealthy
  · exact heq

/-- **The barrier**: who comes past has seen no clients, and who comes inside has seen
the dispatcher healthy. -/
theorem Sound.barrier_turn {k : Nat} (h : Sound d stages)
    (hturn : Threads.Turn stages k s s' stages') (hmoves : Moves d s d' s')
    (hpast : ∃ q ∈ stages', q.past = true) : ∀ q ∈ stages', q ≠ .inside := by
  have hs := hturn.mem
  by_cases hold : ∃ q ∈ stages, q.past = true
  · refine Threads.forall_turn hturn (h.barrier hold) (fun hne hinside => ?_) fun q hq => hq
    rcases hmoves.inside hinside with heq | hhealthy
    · exact hne heq
    · obtain ⟨q, hq, hqpast⟩ := hold
      refine h.informed q hq ?_ hhealthy
      cases q <;> first | rfl | cases hqpast
  · -- Then it is this turn that comes past.
    have hpass : s'.past = true → s = .waiting ∧ d.activeClients = 0 := fun hs' => by
      rcases hmoves.past hs' with hspast | hpass
      · exact absurd ⟨s, hs, hspast⟩ hold
      · exact hpass
    have hs'past : s'.past = true := by
      obtain ⟨q, hq, hqpast⟩ := hpast
      by_contra hnot
      refine Threads.forall_turn (P := fun q => ¬q.past = true) (Q := fun q => ¬q.past = true)
        hturn (fun q hq hqpast => hold ⟨q, hq, hqpast⟩) (fun _ => hnot) (fun q hq => hq) q hq hqpast
    obtain ⟨-, hzero⟩ := hpass hs'past
    rw [h.clients] at hzero
    refine Threads.forall_turn (P := fun q => q ≠ .inside) hturn (fun q hq hinside => ?_)
      (fun _ hinside => by rw [hinside] at hs'past; cases hs'past) fun q hq => hq
    have hpos := Threads.countP_pos (f := Stage.counted) hq (by rw [hinside]; rfl)
    omega

theorem Sound.passed_turn {k : Nat} (h : Sound d stages)
    (hturn : Threads.Turn stages k s s' stages') (hmoves : Moves d s d' s')
    (hpast : ∃ q ∈ stages, q.past = true) : ∃ q ∈ stages', q.past = true := by
  have hpos : 0 < stages.countP Stage.past := List.countP_pos_iff.mpr hpast
  have hcount := Threads.countP_turn Stage.past hturn
  have hmono : s.past.toNat ≤ s'.past.toNat := by
    cases hs : s.past with
    | false => exact Nat.zero_le _
    | true => rw [hmoves.stays_past hs h.failed]
  exact List.countP_pos_iff.mp (by omega)

theorem Sound.unmarked_turn {k : Nat} (h : Sound d stages)
    (hturn : Threads.Turn stages k s s' stages') (hmoves : Moves d s d' s') :
    stages'.countP Stage.unmarked + d'.stopEnqueued.toNat ≤ 1 := by
  have hs := hturn.mem
  have hcount := Threads.countP_turn Stage.unmarked hturn
  have hle := h.unmarked
  rcases hmoves.unmarked (h.unstopped hs) with hsum | ⟨hchecking, hstopping, -, hstop⟩
  · omega
  · have hzero := h.alone hs (f := Stage.unmarked) (by rw [hchecking]; rfl)
      (fun q hq => by cases q <;> first | rfl | cases hq) (by rw [hchecking]; rfl)
    rw [hchecking, hstopping, hzero] at hcount
    rw [hstop]
    exact Nat.le_of_eq hcount

theorem Sound.passed_mark {k : Nat} (h : Sound d stages)
    (hturn : Threads.Turn stages k s s' stages') (hmoves : Moves d s d' s')
    (hstop : d'.stopEnqueued = true) : ∃ q ∈ stages', q.past = true := by
  cases hold : d.stopEnqueued with
  | true => exact h.passed_turn hturn hmoves (h.passed hold)
  | false =>
      have hmark : s.past = true := by
        cases hmoves with
        | mark => rfl
        | _ => exact absurd (hstop.symm.trans hold) nofun
      exact h.passed_turn hturn hmoves ⟨s, hturn.mem, hmark⟩

/-- A command goes to the end of a queue without `Stop`. -/
theorem Sound.sends (h : Sound d stages) (hs : s ∈ stages) (hmoves : Moves d s d' s') :
    d'.queue = d.queue ∨
      (∃ command, d'.queue = d.queue ++ [command] ∧
        d.queue.countP WorkerCommand.isStop = 0 ∧ d.thread.left = false) := by
  rcases hmoves.queue with heq | ⟨command, heq, -, ⟨hinside, -⟩ | ⟨hstopping, -⟩⟩
  · exact .inl heq
  · exact .inr ⟨command, heq, h.before_stop hs hinside⟩
  · exact .inr ⟨command, heq, h.first_stop hs hstopping⟩

theorem Sound.turn {k : Nat} (h : Sound d stages) (hturn : Threads.Turn stages k s s' stages')
    (hmoves : Moves d s d' s') : Sound d' stages' := by
  have hs := hturn.mem
  have hthread := hmoves.thread
  refine
    { clients := ?_, lock := ?_, handle := ?_, joiners := ?_, exited := ?_,
      failed := hmoves.not_failed h.failed, informed := ?_,
      barrier := h.barrier_turn hturn hmoves, unmarked := h.unmarked_turn hturn hmoves,
      passed := h.passed_mark hturn hmoves, stops := ?_, last := ?_, drained := ?_, closed := ?_,
      available := ?_ }
  · have hcount := Threads.countP_turn Stage.counted hturn
    have hmove := hmoves.clients
    have hclients := h.clients
    omega
  · have hcount := Threads.countP_turn Stage.holdsLock hturn
    have hmove := hmoves.locked (h.locked hs)
    have hlock := h.lock
    omega
  · rcases hmoves.taken with ⟨hjoining, hworker⟩ | ⟨-, -, hjoining, hworker, -⟩
    · rw [hjoining, hworker]
      exact h.handle
    · rw [hjoining, hworker]
      rfl
  · have hcount := Threads.countP_turn Stage.joins hturn
    have hmove := hmoves.joins (h.unpublished hs)
    have hjoiners := h.joiners
    omega
  · rw [hthread]
    rcases hmoves.taken with ⟨hjoining, -⟩ | ⟨-, hfinished, -⟩
    · rw [hjoining]
      exact h.exited
    · exact fun _ => hfinished
  · exact Threads.forall_turn hturn h.informed hmoves.informed
      fun q hq hinformed => hmoves.not_healthy (hq hinformed)
  · have hcount := Threads.countP_turn (· == Stage.marking) hturn
    have hmove := hmoves.stops (h.unstopped hs)
    have hstops := h.stops
    rw [hthread]
    omega
  · rcases h.sends hs hmoves with heq | ⟨command, heq, hzero, -⟩
    · rw [heq]
      exact h.last
    · rw [heq, List.dropLast_concat]
      exact hzero
  · intro hleft
    rw [hthread] at hleft
    rcases h.sends hs hmoves with heq | ⟨command, heq, -, hnot⟩
    · rw [heq]
      exact h.drained hleft
    · rw [hleft] at hnot
      cases hnot
  · exact Threads.forall_turn hturn h.closed hmoves.closed
      fun q hq heq => hmoves.stays_stopped (hq heq)
  · refine Threads.forall_turn hturn h.available (fun hnot hlost => ?_) fun q hq => hq
    rcases hmoves.lost hlost with hold | ⟨hworker, hgone⟩
    · exact hnot hold
    · exact h.not_lost hs hworker hgone

/-! ### Turns of the worker -/

/-- Nothing stands behind `Stop` in the queue. -/
theorem Sound.stop_last {rest : List WorkerCommand} (h : Sound d stages)
    (hqueue : d.queue = .stop :: rest) : rest = [] := by
  have hlast := h.last
  rw [hqueue] at hlast
  cases rest with
  | nil => rfl
  | cons command rest =>
      rw [List.dropLast_cons_cons, List.countP_cons_of_pos rfl] at hlast
      cases hlast

theorem dropLast_countP_le {f : WorkerCommand → Bool} (command : WorkerCommand)
    (rest : List WorkerCommand) : rest.dropLast.countP f ≤ (command :: rest).dropLast.countP f := by
  cases rest with
  | nil => exact Nat.zero_le _
  | cons next rest =>
      show (next :: rest).dropLast.countP f ≤ (command :: (next :: rest).dropLast).countP f
      rw [List.countP_cons]
      exact Nat.le_add_right _ _

theorem Sound.work (h : Sound d stages) (hworks : Works d d') : Sound d' stages := by
  obtain ⟨hclients, hlock, hhandle, hjoiners, hexited, hfailed, hinformed, hbarrier, hunmarked,
    hpassed, hstops, hlast, hdrained, hclosed, havailable⟩ := h
  have receiving {thread : Worker} (hthread : d.thread.isFinished = false) :
      d.joining = true → thread.isFinished = true := fun hjoining => by
    rw [hexited hjoining] at hthread
    cases hthread
  cases hworks with
  | @receive command rest hthread hqueue =>
      refine ⟨hclients, hlock, hhandle, hjoiners, receiving (by rw [hthread]; rfl),
        hfailed, hinformed,
        hbarrier, hunmarked, hpassed, ?_, ?_, nofun, hclosed, havailable⟩
      · rw [hqueue, hthread, List.countP_cons_of_neg Bool.false_ne_true] at hstops
        exact hstops
      · rw [hqueue] at hlast
        exact Nat.le_zero.mp (hlast ▸ dropLast_countP_le _ rest)
  | @stop rest hthread hqueue =>
      have hrest : rest = [] :=
        Sound.stop_last ⟨hclients, hlock, hhandle, hjoiners, hexited, hfailed, hinformed, hbarrier,
          hunmarked, hpassed, hstops, hlast, hdrained, hclosed, havailable⟩ hqueue
      refine ⟨hclients, hlock, hhandle, hjoiners, receiving (by rw [hthread]; rfl),
        hfailed, hinformed,
        hbarrier, hunmarked, hpassed, ?_, ?_, fun _ => hrest, hclosed, havailable⟩
      · rw [hqueue, hthread, List.countP_cons_of_pos rfl] at hstops
        exact hstops
      · rw [hrest]
        rfl
  | @send command count hthread =>
      refine ⟨hclients, hlock, hhandle, hjoiners, receiving (by rw [hthread]; rfl),
        hfailed, hinformed,
        hbarrier, hunmarked, hpassed, ?_, hlast, nofun, hclosed, havailable⟩
      rw [hthread] at hstops
      exact hstops
  | finish hthread =>
      refine ⟨hclients, hlock, hhandle, hjoiners, fun _ => rfl,
        hfailed, hinformed, hbarrier, hunmarked,
        hpassed, ?_, hlast, fun _ => hdrained (by rw [hthread]; rfl), hclosed, havailable⟩
      rw [hthread] at hstops
      exact hstops

theorem Sound.shift (h : Sound d stages) (hshifts : Shifts d stages d' stages') :
    Sound d' stages' := by
  cases hshifts with
  | turn hturn hmoves => exact h.turn hturn hmoves
  | work hworks => exact h.work hworks
  | @guards guards => exact h.guards guards
  | @start guards =>
      have count (f : Stage → Bool) (hf : f .outside = false) :
          (stages ++ [Stage.outside]).countP f = stages.countP f := by
        rw [Threads.countP_start, hf]
        rfl
      obtain ⟨hclients, hlock, hhandle, hjoiners, hexited, hfailed, hinformed, hbarrier, hunmarked,
        hpassed, hstops, hlast, hdrained, hclosed, havailable⟩ := h
      refine ⟨?_, ?_, hhandle, ?_, hexited, hfailed, ?_, ?_,
        ?_, fun hstop => ?_, ?_, hlast, hdrained,
        ?_, ?_⟩
      · rw [count Stage.counted rfl]
        exact hclients
      · rw [count Stage.holdsLock rfl]
        exact hlock
      · rw [count Stage.joins rfl]
        exact hjoiners
      · exact Threads.forall_start hinformed nofun
      · rintro ⟨q, hq, hpast⟩
        refine Threads.forall_start (hbarrier ⟨q, ?_, hpast⟩) nofun
        rcases List.mem_append.mp hq with hq | hq
        · exact hq
        · rw [List.mem_singleton.mp hq] at hpast
          cases hpast
      · rw [count Stage.unmarked rfl]
        exact hunmarked
      · obtain ⟨q, hq, hpast⟩ := hpassed hstop
        exact ⟨q, List.mem_append_left _ hq, hpast⟩
      · rw [count (· == .marking) rfl]
        exact hstops
      · exact Threads.forall_start hclosed nofun
      · exact Threads.forall_start havailable (by decide)

/-! ## Runs -/

variable {visits : List (Visit World Input)} {v : Visit World Input}

/-- **What every interleaving keeps.** -/
theorem Run.sound (h : Run visits w) : w.fatal = none ∧ Sound w.dispatcher w.stages := by
  refine Path.invariant (P := fun w => w.fatal = none ∧ Sound w.dispatcher w.stages) ?_
    ⟨rfl, .start⟩ h
  rintro w i w' ⟨-, hsound⟩ hst
  rcases step_steps hst with ⟨hfatal, hsteps⟩ | ⟨call, go, p, reason, hp, hturn⟩
  · exact ⟨hsteps.fatal.trans hfatal, hsound.shift hsteps.shifts⟩
  · have hmem : p.stage ∈ w.stages := List.mem_map_of_mem (List.mem_of_getElem? hp)
    exact (hsound.aborts hmem (turn_fits hturn)).elim

theorem Run.steps (h : Run visits w) (hst : step w i = some w') : Steps w i w' := by
  rcases step_steps hst with ⟨-, hsteps⟩ | ⟨call, go, p, reason, hp, hturn⟩
  · exact hsteps
  · have hmem : p.stage ∈ w.stages := List.mem_map_of_mem (List.mem_of_getElem? hp)
    exact (h.sound.2.aborts hmem (turn_fits hturn)).elim

end VideoInterop.Dispatcher
