import VideoInterop.Dispatcher.Calls

/-!
# Stages of a call

Most of what a call does is a look at the shared state.  Its stage is what matters
to the others: whether it is counted as a client, whether it was granted the use of
one, how far it has come with closing, and whether it holds the mutex.

`Moves` is what a turn does, stage by stage, and `Sound` what every order of turns
keeps.  The heart of it is the barrier: a closer that has seen no clients after the
health has changed knows that nobody is inside, and that nobody will be, for a
newcomer that is counted later looks at the health once more.
-/

namespace VideoInterop.Dispatcher

/-- What the other calls have to know of a point. -/
inductive Stage where
  /-- Not counted, and not closing. -/
  | outside
  /-- Counted, with the second look at the health to come. -/
  | trying
  /-- Counted, and refused by the second look. -/
  | withdrawing
  /-- A call that was refused, or a closer that gave up waiting for the clients. -/
  | refused
  /-- A granted client. -/
  | inside
  /-- A closer that waits for the clients. -/
  | waiting
  /-- A closer that has seen no clients. -/
  | passed
  /-- A closer that holds the mutex and has not looked yet. -/
  | checking
  /-- A closer that holds the mutex and is to send `Stop`. -/
  | stopping
  /-- A closer that holds the mutex and has sent `Stop`. -/
  | marking
  /-- A closer that holds the mutex, with `Stop` sent and marked. -/
  | marked
  /-- A closer that holds the mutex and has found no worker. -/
  | unavailable
  /-- A closer that holds the mutex and is to look at the worker. -/
  | inspecting
  /-- A closer that holds the mutex and leaves the join handle. -/
  | unready
  /-- A closer that holds the mutex and the join handle. -/
  | taken
  /-- A closer that joins the worker. -/
  | joining
  /-- A closer that is through. -/
  | closed
  /-- A closer that has given up after it had passed. -/
  | late
  /-- A closer that has failed for want of a worker. -/
  | lost
deriving DecidableEq, Repr

namespace Stage

/-- Is the call counted as a client? -/
def counted : Stage → Bool
  | trying | withdrawing | inside => true
  | _ => false

/-- Has it seen that the dispatcher is not healthy any more? -/
def informed : Stage → Bool
  | outside | trying | inside => false
  | _ => true

/-- A closer that has come past the clients. -/
def past : Stage → Bool
  | outside | trying | withdrawing | refused | inside | waiting => false
  | _ => true

/-- Does it hold the mutex? -/
def holdsLock : Stage → Bool
  | checking | stopping | marking | marked | unavailable | inspecting | unready | taken => true
  | _ => false

/-- It is about to say that `Stop` was sent. -/
def unmarked : Stage → Bool
  | stopping | marking => true
  | _ => false

/-- It has the join handle. -/
def joins : Stage → Bool
  | taken | joining => true
  | _ => false

end Stage

/-- The stage of a point. -/
def Point.stage : Point → Stage
  | .acquire _ | .enter _ => .outside
  | .recheck _ => .trying
  | .withdraw _ => .withdrawing
  | .refused _ | .inert => .refused
  | .admitted _ | .dispatch .. | .leave _ => .inside
  | .duplicate lease | .prepared lease | .claimed lease =>
    if lease.isSome then .inside else .outside
  | .dropPrepared .. => .inside
  | .dropKeepalive .. | .dropRetired => .outside
  | .closeAndJoin | .beginClose | .swapHealth => .outside
  | .waitForClients | .clientsSleep => .waiting
  | .lockToStop | .stopSleep | .checkStopped | .checkFailed | .lockToJoin | .joinSleep
  | .drainSleep => .passed
  | .stopCheck => .checking
  | .stopSend => .stopping
  | .stopMark => .marking
  | .stopUnlock => .marked
  | .stopUnavailable | .joinUnavailable => .unavailable
  | .inspect => .inspecting
  | .joinUnlock taken => if taken then .taken else .unready
  | .join | .publish => .joining
  | .closed (.ok ()) => .closed
  | .closed (.error .workerUnavailable) => .lost
  | .closed (.error .clientsTimeout) => .refused
  | .closed (.error .ownershipTimeout) | .closed (.error .drainTimeout) => .late
  | .closed (.error _) => .outside
  | .returned _ => .outside

/-- What a turn does. -/
inductive Moves (d : ReleaseDispatcher) : Stage → ReleaseDispatcher → Stage → Prop where
  /-- It looks, or it has to do with guards. -/
  | stay {s guards} : Moves d s { d with guards := guards } s
  | enter : Moves d .outside { d with activeClients := d.activeClients + 1 } .trying
  | grant (h : d.health = .healthy) : Moves d .trying d .inside
  | deny (h : d.health ≠ .healthy) : Moves d .trying d .withdrawing
  | withdraw (h : 0 < d.activeClients) :
      Moves d .withdrawing { d with activeClients := d.activeClients - 1 } .refused
  | refuse (h : d.health ≠ .healthy) : Moves d .outside d .refused
  | back {guards} : Moves d .refused { d with guards := guards } .outside
  | send {command} (h : d.thread.isFinished = false) :
      Moves d .inside { d with queue := d.queue ++ [.dispatch command] } .inside
  | leave (h : 0 < d.activeClients) :
      Moves d .inside { d with activeClients := d.activeClients - 1 } .outside
  | begun (h : d.health ≠ .healthy) : Moves d .outside d .waiting
  | begin (h : d.health = .healthy) : Moves d .outside { d with health := .stopping } .waiting
  | pass (h : d.activeClients = 0) : Moves d .waiting d .passed
  | giveUp : Moves d .waiting d .refused
  | lock {s} (h : d.locked = false) (hs : s = .checking ∨ s = .inspecting) :
      Moves d .passed { d with locked := true } s
  | stopped (h : d.health = .stopped ∨ d.stopEnqueued = true) : Moves d .checking d .marked
  | unstopped (h : d.health ≠ .stopped) (hstop : d.stopEnqueued = false)
      (hworker : d.worker = true) :
      Moves d .checking d .stopping
  | stop (h : d.thread.isFinished = false) :
      Moves d .stopping { d with queue := d.queue ++ [.stop] } .marking
  | mark : Moves d .marking { d with stopEnqueued := true } .marked
  | unavailable {s} (hworker : d.worker = false)
      (hs : s = .checking ∧ d.health ≠ .stopped ∧ d.stopEnqueued = false ∨
        s = .inspecting ∧ d.joining = false) : Moves d s d .unavailable
  | take (hworker : d.worker = true) (hjoining : d.joining = false)
      (h : d.thread.isFinished = true) :
      Moves d .inspecting { d with joining := true, worker := false } .taken
  | unready : Moves d .inspecting d .unready
  | unlock {s s'} (hs : s = .marked ∧ s' = .passed ∨ s = .unready ∧ s' = .passed ∨
      s = .unavailable ∧ s' = .lost ∨ s = .taken ∧ s' = .joining) :
      Moves d s { d with locked := false } s'
  | publish : Moves d .joining { d with health := .stopped } .closed
  | sawStopped (h : d.health = .stopped) : Moves d .passed d .closed
  | sawFailed (h : d.health = .failed) : Moves d .passed d .outside
  | timeout : Moves d .passed d .late

/-- What ends the process. -/
inductive Aborts (d : ReleaseDispatcher) : Stage → Fatal → Prop where
  | unexpectedly (h : d.thread.isFinished = true) : Aborts d .inside .workerStoppedUnexpectedly
  | beforeJoin (h : d.thread.isFinished = true) : Aborts d .stopping .workerStoppedBeforeJoin
  | underflow {s} (h : d.activeClients = 0) (hs : s = .inside ∨ s = .withdrawing) :
      Aborts d s .clientCountUnderflow
  | notAdmitted (h : d.health = .healthy ∨ d.health = .failed) : Aborts d .refused .guardNotAdmitted

variable {d d' : ReleaseDispatcher} {p p' : Point} {go : Bool} {reason : Fatal}

theorem mapGuard_eq (g : Option Nat) (f : AbandonmentGuard → AbandonmentGuard)
    (d : ReleaseDispatcher) : ∃ guards, d.mapGuard g f = { d with guards := guards } := by
  cases g with
  | none => exact ⟨d.guards, rfl⟩
  | some g => exact ⟨_, rfl⟩

theorem unkeep_eq (lease : Lease) (d : ReleaseDispatcher) :
    ∃ guards, d.unkeep lease = { d with guards := guards } := mapGuard_eq _ _ d

theorem Moves.same {s : Stage} : Moves d s d s := .stay

/-- A send fails when the worker has exited. -/
theorem send_cases (command : WorkerCommand) (d : ReleaseDispatcher) :
    (d.thread.isFinished = false ∧
        d.send command = some { d with queue := d.queue ++ [command] }) ∨
      (d.thread.isFinished = true ∧ d.send command = none) := by
  unfold ReleaseDispatcher.send
  cases hthread : d.thread with
  | finished => exact .inr ⟨rfl, rfl⟩
  | _ => exact .inl ⟨rfl, rfl⟩

theorem releaseClient_cases (d : ReleaseDispatcher) (p : Point) :
    (0 < d.activeClients ∧
        releaseClient d p = .next { d with activeClients := d.activeClients - 1 } p) ∨
      (d.activeClients = 0 ∧ releaseClient d p = .abort .clientCountUnderflow) := by
  unfold releaseClient
  split
  · next h => exact .inr ⟨h, rfl⟩
  · next h => exact .inl ⟨Nat.pos_of_ne_zero h, rfl⟩

/-- What a turn comes to, in terms of stages. -/
def Outcome.Fits (d : ReleaseDispatcher) (s : Stage) : Outcome → Prop
  | .next d' p' => Moves d s d' p'.stage
  | .abort reason => Aborts d s reason

theorem sleepUntilRetry_fits {s : Stage} (retry : Point) (error : CloseError)
    (hretry : retry.stage = s) (herror : Moves d s d (Point.closed (.error error)).stage) :
    (sleepUntilRetry d go retry error).Fits d s := by
  unfold sleepUntilRetry
  split
  · show Moves d s d retry.stage
    rw [hretry]
    exact .same
  · exact herror

theorem tryLock_fits {locked sleep : Point} (hsleep : sleep.stage = .passed)
    (hlocked : locked.stage = .checking ∨ locked.stage = .inspecting) :
    (tryLock d locked sleep).Fits d .passed := by
  unfold tryLock
  split
  · show Moves d .passed d sleep.stage
    rw [hsleep]
    exact .same
  · next h => exact .lock (by simpa using h) hlocked

theorem After.point_stage (after : After) : after.point.stage = .outside := by
  cases after <;> rfl

theorem Use.granted_stage (use : Use) : use.granted.stage = .inside := by
  cases use <;> rfl

theorem Use.refuse_fits (d : ReleaseDispatcher) (use : Use) : (use.refuse d).Fits d .refused := by
  cases use with
  | guard command => exact .back
  | abandoned command => exact .same
  | prepare lease =>
      obtain ⟨guards, heq⟩ := unkeep_eq lease d
      show Moves d .refused (d.unkeep lease) .outside
      rw [heq]
      exact .back

/-- **A turn is a move of the stage.** -/
theorem turn_fits {outcome : Outcome} (h : turn d go p = some outcome) :
    outcome.Fits d p.stage := by
  cases p with
  | acquire use =>
      cases h
      split
      · exact .same
      · next hhealth => exact .refuse hhealth
  | enter use =>
      cases h
      exact .enter
  | recheck use =>
      cases h
      split
      · next hhealth =>
          show Moves d .trying d use.granted.stage
          rw [use.granted_stage]
          exact .grant hhealth
      · next hhealth => exact .deny hhealth
  | withdraw use =>
      cases h
      rcases releaseClient_cases d (.refused use) with ⟨hpos, heq⟩ | ⟨hzero, heq⟩ <;> rw [heq]
      · exact .withdraw hpos
      · exact .underflow hzero (.inr rfl)
  | refused use =>
      cases h
      exact use.refuse_fits d
  | admitted command =>
      cases h
      exact .stay
  | inert =>
      cases h
      split
      · exact .back
      · next hhealth =>
          refine .notAdmitted ?_
          cases hd : d.health <;> simp [hd] at hhealth ⊢
  | dispatch command after =>
      simp only [turn] at h
      rcases send_cases (.dispatch command) d with ⟨hthread, heq⟩ | ⟨hthread, heq⟩ <;>
        rw [heq] at h <;> cases h
      · exact .send hthread
      · exact .unexpectedly hthread
  | leave after =>
      cases h
      rcases releaseClient_cases d after.point with ⟨hpos, heq⟩ | ⟨hzero, heq⟩ <;> rw [heq]
      · show Moves d .inside _ after.point.stage
        rw [after.point_stage]
        exact .leave hpos
      · exact .underflow hzero (.inl rfl)
  | duplicate lease => cases lease <;> cases h <;> split <;> exact .same
  | prepared lease => cases lease <;> cases h <;> split <;> exact .same
  | dropPrepared lease result =>
      cases h
      obtain ⟨guards, heq⟩ := unkeep_eq lease d
      show Moves d .inside (d.unkeep lease) .inside
      rw [heq]
      exact .stay
  | claimed lease =>
      cases lease with
      | none =>
          cases h
          exact .same
      | some lease =>
          simp only [turn] at h
          rcases send_cases (.dispatch lease.release) d with ⟨hthread, heq⟩ | ⟨hthread, heq⟩ <;>
            rw [heq] at h <;> cases h
          · exact .send hthread
          · exact .unexpectedly hthread
  | dropKeepalive lease retire =>
      cases h
      obtain ⟨guards, heq⟩ := unkeep_eq lease d
      show Moves d .outside (d.unkeep lease) _
      rw [heq]
      cases retire <;> exact .stay
  | dropRetired =>
      cases h
      exact .same
  | closeAndJoin =>
      cases h
      split <;> exact .same
  | beginClose =>
      simp only [turn] at h
      split at h <;> cases h
      · exact .same
      · next hhealth => exact .begun (by rw [hhealth]; decide)
      · next hhealth => exact .begun (by rw [hhealth]; decide)
      · exact .same
  | swapHealth =>
      cases h
      split
      · next hhealth => exact .begin hhealth
      · exact .same
  | waitForClients =>
      cases h
      split
      · next hzero => exact .pass hzero
      · exact .same
  | clientsSleep =>
      cases h
      exact sleepUntilRetry_fits _ _ rfl .giveUp
  | lockToStop =>
      cases h
      exact tryLock_fits rfl (.inl rfl)
  | stopSleep =>
      cases h
      exact sleepUntilRetry_fits _ _ rfl .timeout
  | stopCheck =>
      cases h
      split
      · next hstop => exact .stopped hstop
      · next hstop =>
          obtain ⟨hhealth, hstop⟩ := not_or.mp hstop
          split
          · next hworker => exact .unavailable hworker (.inl ⟨rfl, hhealth, by simpa using hstop⟩)
          · next hworker => exact .unstopped hhealth (by simpa using hstop) (by simpa using hworker)
  | stopSend =>
      simp only [turn] at h
      rcases send_cases .stop d with ⟨hthread, heq⟩ | ⟨hthread, heq⟩ <;> rw [heq] at h <;> cases h
      · exact .stop hthread
      · exact .beforeJoin hthread
  | stopMark =>
      cases h
      exact .mark
  | stopUnlock =>
      cases h
      exact .unlock (.inl ⟨rfl, rfl⟩)
  | stopUnavailable =>
      cases h
      exact .unlock (.inr (.inr (.inl ⟨rfl, rfl⟩)))
  | checkStopped =>
      cases h
      split
      · next hhealth => exact .sawStopped hhealth
      · exact .same
  | checkFailed =>
      cases h
      split
      · next hhealth => exact .sawFailed hhealth
      · exact .same
  | lockToJoin =>
      cases h
      exact tryLock_fits rfl (.inr rfl)
  | joinSleep =>
      cases h
      exact sleepUntilRetry_fits _ _ rfl .timeout
  | inspect =>
      cases h
      split
      · next htake => exact .take htake.1 htake.2.1 htake.2.2
      · split
        · exact .unready
        · next hnone =>
            obtain ⟨hjoining, hworker⟩ := not_or.mp hnone
            exact .unavailable (by simpa using hworker) (.inr ⟨rfl, by simpa using hjoining⟩)
  | joinUnlock taken =>
      cases h
      cases taken with
      | false => exact .unlock (.inr (.inl ⟨rfl, rfl⟩))
      | true => exact .unlock (.inr (.inr (.inr ⟨rfl, rfl⟩)))
  | joinUnavailable =>
      cases h
      exact .unlock (.inr (.inr (.inl ⟨rfl, rfl⟩)))
  | join =>
      cases h
      exact .same
  | publish =>
      cases h
      exact .publish
  | drainSleep =>
      cases h
      exact sleepUntilRetry_fits _ _ rfl .timeout
  | closed result => cases h
  | returned result => cases h

end VideoInterop.Dispatcher
