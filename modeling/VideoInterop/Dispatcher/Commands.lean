import Mathlib
import VideoInterop.Dispatcher.Barrier

/-!
# Commands of a run

What is sent, received and handled over a whole run.  The channel is a queue, so
what was sent is what was handled, what the worker is sending, and what waits.
-/

namespace VideoInterop.Dispatcher

/-- The command that is sent at a point. -/
def Point.sends : Point → Option WorkerCommand
  | .dispatch command _ => some (.dispatch command)
  | .claimed (some lease) => some (.dispatch lease.release)
  | .stopSend => some .stop
  | _ => none

/-- The point of the call that a visit is a turn of. -/
def pointIn (v : Visit World Input) : Option Point :=
  match v.input with
  | .turn call _ => v.pre.calls[call]?
  | _ => none

/-- The command a visit enqueues. -/
def enqueuedIn (v : Visit World Input) : Option WorkerCommand := (pointIn v).bind Point.sends

/-- The command that is to be dispatched. -/
def WorkerCommand.command : WorkerCommand → Option DispatchCommand
  | .dispatch command => some command
  | .stop => none

/-- The `Dispatch` command a visit enqueues. -/
def dispatchedIn (v : Visit World Input) : Option DispatchCommand :=
  (enqueuedIn v).bind WorkerCommand.command

/-- The command a visit of the worker handles. -/
def handledIn (v : Visit World Input) : Option DispatchCommand :=
  match v.input, v.pre.dispatcher.thread with
  | .work _, .sending command => some command
  | _, _ => none

/-- What a call adds to `active_clients` in a visit. -/
def clientsIn (call : Nat) (v : Visit World Input) : Int :=
  match v.input with
  | .turn call' _ =>
      if call' = call then v.post.dispatcher.activeClients - v.pre.dispatcher.activeClients else 0
  | _ => 0

variable {d d' : ReleaseDispatcher} {p p' : Point} {go : Bool} {w w' : World} {i : Input}
  {visits : List (Visit World Input)}

@[simp] theorem mapGuard_queue (g : Option Nat) (f : AbandonmentGuard → AbandonmentGuard)
    (d : ReleaseDispatcher) : (d.mapGuard g f).queue = d.queue := by
  obtain ⟨guards, heq⟩ := mapGuard_eq g f d
  rw [heq]

@[simp] theorem unkeep_queue (lease : Lease) (d : ReleaseDispatcher) :
    (d.unkeep lease).queue = d.queue := mapGuard_queue _ _ d

/-- A turn puts into the queue what its point sends. -/
theorem turn_sends (h : turn d go p = some (.next d' p')) :
    d'.queue = d.queue ++ p.sends.toList := by
  cases p with
  | dispatch command after =>
      simp only [turn] at h
      rcases send_cases (.dispatch command) d with ⟨-, heq⟩ | ⟨-, heq⟩ <;> rw [heq] at h <;> cases h
      rfl
  | claimed lease =>
      cases lease with
      | none =>
          cases h
          simp [Point.sends]
      | some lease =>
          simp only [turn] at h
          rcases send_cases (.dispatch lease.release) d with ⟨-, heq⟩ | ⟨-, heq⟩ <;>
            rw [heq] at h <;> cases h
          rfl
  | stopSend =>
      simp only [turn] at h
      rcases send_cases .stop d with ⟨-, heq⟩ | ⟨-, heq⟩ <;> rw [heq] at h <;> cases h
      rfl
  | duplicate lease =>
      cases lease <;> simp only [turn] at h <;> split at h <;> cases h <;> simp [Point.sends]
  | prepared lease =>
      cases lease <;> simp only [turn] at h <;> split at h <;> cases h <;> simp [Point.sends]
  | refused use => cases use <;> cases h <;> simp [Point.sends]
  | _ =>
      -- The other points only look, or change other fields.
      simp only [turn, releaseClient, sleepUntilRetry, tryLock, unlock, Option.some.injEq] at h
      repeat' split at h
      all_goals cases h
      all_goals simp [Point.sends]

/-- The points calls start at. -/
def Point.isStart : Point → Bool
  | .acquire _ | .closeAndJoin | .duplicate none => true
  | .returned (.prepareFailed .unexpectedLease) | .returned (.prepareFailed .missingLease) => true
  | _ => false

/-- An input is a turn of a call, or it leaves the calls there are, and the health. -/
theorem Steps.calls (h : Steps w i w') :
    (∃ call go p p' d, i = .turn call go ∧ w.calls[call]? = some p ∧
        Dispatcher.turn w.dispatcher go p = some (.next d p') ∧
        w' = { w with dispatcher := d, calls := w.calls.set call p' }) ∨
      ((∀ call go, i ≠ .turn call go) ∧ w'.dispatcher.health = w.dispatcher.health ∧
        ∃ started, w'.calls = w.calls ++ started ∧ ∀ p ∈ started, p.isStart = true) := by
  have one {p : Point} (hp : p.isStart = true) : ∀ q ∈ [p], q.isStart = true := fun q hq => by
    rw [List.mem_singleton.mp hq]
    exact hp
  have mapped (g : Option Nat) (f : AbandonmentGuard → AbandonmentGuard) :
      (w.dispatcher.mapGuard g f).health = w.dispatcher.health := by
    obtain ⟨guards, heq⟩ := mapGuard_eq g f w.dispatcher
    rw [heq]
  cases h with
  | newGuard => exact .inr ⟨nofun, rfl, _, rfl, one rfl⟩
  | prepare _ => exact .inr ⟨nofun, mapped _ _, _, rfl, one rfl⟩
  | @withoutLease binary lease hlease =>
      refine .inr ⟨nofun, rfl, _, rfl, one ?_⟩
      rcases hlease with rfl | rfl
      · cases lease <;> rfl
      · cases binary <;> rfl
  | closeAndJoin => exact .inr ⟨nofun, rfl, _, rfl, one rfl⟩
  | copyTerm _ _ => exact .inr ⟨nofun, mapped _ _, [], (List.append_nil _).symm, nofun⟩
  | dropTerm _ _ => exact .inr ⟨nofun, mapped _ _, [], (List.append_nil _).symm, nofun⟩
  | destroy _ => exact .inr ⟨nofun, mapped _ _, _, rfl, one rfl⟩
  | work hwork =>
      refine .inr ⟨nofun, ?_, [], (List.append_nil _).symm, nofun⟩
      have hsame : ∀ {d}, Works w.dispatcher d → d.health = w.dispatcher.health := fun hworks => by
        cases hworks <;> rfl
      exact hsame (work_works hwork)
  | turn hp hturn => exact .inl ⟨_, _, _, _, _, rfl, hp, hturn, rfl⟩

/-! ## The channel -/

/-- The commands that were received and not yet sent on. -/
def Worker.current : Worker → Option DispatchCommand
  | .sending command => some command
  | _ => none

/-- What is on its way through the dispatcher. -/
def ReleaseDispatcher.pending (d : ReleaseDispatcher) : List DispatchCommand :=
  d.thread.current.toList ++ d.queue.filterMap WorkerCommand.command

theorem Steps.pending (h : Steps w i w') :
    (handledIn ⟨w, i, w'⟩).toList ++ w'.dispatcher.pending =
      w.dispatcher.pending ++ (dispatchedIn ⟨w, i, w'⟩).toList := by
  have guards (gs : List AbandonmentGuard) :
      ({ w.dispatcher with guards := gs } : ReleaseDispatcher).pending = w.dispatcher.pending := rfl
  have mapped (g : Option Nat) (f : AbandonmentGuard → AbandonmentGuard) :
      (w.dispatcher.mapGuard g f).pending = w.dispatcher.pending := by
    obtain ⟨gs, heq⟩ := mapGuard_eq g f w.dispatcher
    rw [heq, guards]
  cases h with
  | newGuard => exact (List.append_nil _).symm
  | @prepare lease _ => exact (mapped _ _).trans (List.append_nil _).symm
  | withoutLease _ => exact (List.append_nil _).symm
  | closeAndJoin => exact (List.append_nil _).symm
  | copyTerm _ _ => exact (mapped _ _).trans (List.append_nil _).symm
  | dropTerm _ _ => exact (mapped _ _).trans (List.append_nil _).symm
  | destroy _ => exact (mapped _ _).trans (List.append_nil _).symm
  | @turn call go p p' d hp hturn =>
      have hthread : d.thread = w.dispatcher.thread :=
        (show Moves _ _ _ _ from turn_fits hturn).thread
      have hdispatched : dispatchedIn ⟨w, .turn call go,
          { w with dispatcher := d, calls := w.calls.set call p' }⟩ =
            p.sends.bind WorkerCommand.command := by
        simp [dispatchedIn, enqueuedIn, pointIn, hp]
      rw [hdispatched]
      show d.pending = _
      rw [ReleaseDispatcher.pending, ReleaseDispatcher.pending, hthread, turn_sends hturn,
        List.filterMap_append, List.append_assoc]
      congr 2
      cases p.sends with
      | none => rfl
      | some command => cases command <;> rfl
  | @work delivered d hwork =>
      have hworks := work_works hwork
      generalize hd : w.dispatcher = d₀ at hworks
      have hhandled : handledIn ⟨w, .work delivered, { w with dispatcher := d }⟩ =
          d₀.thread.current := by
        simp only [handledIn, hd]
        cases d₀.thread <;> rfl
      rw [hhandled]
      show d₀.thread.current.toList ++ d.pending = d₀.pending ++ []
      rw [List.append_nil]
      cases hworks with
      | receive hthread hqueue =>
          simp [ReleaseDispatcher.pending, hthread, hqueue, Worker.current, WorkerCommand.command]
      | stop hthread hqueue =>
          simp [ReleaseDispatcher.pending, hthread, hqueue, Worker.current, WorkerCommand.command,
            List.filterMap_cons]
      | send hthread => simp [ReleaseDispatcher.pending, hthread, Worker.current]
      | finish hthread => simp [ReleaseDispatcher.pending, hthread, Worker.current]

/-- A turn puts into the queue what the visit enqueues. -/
theorem Run.enqueues (h : Run visits w) {v : Visit World Input} (hv : v ∈ visits) {call : Nat}
    (hinput : v.input = .turn call go) :
    v.post.dispatcher.queue = v.pre.dispatcher.queue ++ (enqueuedIn v).toList := by
  obtain ⟨before, after, -, hbefore, hst, -⟩ := Path.mem_split h hv
  have hrun : Run before v.pre := hbefore
  rcases (Run.steps hrun hst).calls with
    ⟨call', go', p, p', d, hturn', hp, hturn, hpost⟩ | ⟨hother, -⟩
  · have hpoint : pointIn v = some p := by simp [pointIn, hturn', hp]
    rw [hpost, enqueuedIn, hpoint]
    exact turn_sends hturn
  · exact absurd hinput (hother call go)

/-- **What was dispatched was handled or is pending**, in order. -/
theorem Run.dispatched (h : Run visits w) :
    visits.filterMap dispatchedIn = visits.filterMap handledIn ++ w.dispatcher.pending := by
  induction h with
  | nil => rfl
  | @snoc visits w i w' hrun hst ih =>
      have hstep := (Run.steps hrun hst).pending
      rw [List.filterMap_append, List.filterMap_append, ih, List.append_assoc, List.append_assoc]
      congr 1
      rw [filterMap_one, filterMap_one, hstep]

/-! ## `Stop` -/

theorem Steps.stops (h : Steps w i w') (hsound : Sound w.dispatcher w.stages) :
    w'.dispatcher.stopEnqueued.toNat + w'.stages.countP (· == .marking) =
      w.dispatcher.stopEnqueued.toNat + w.stages.countP (· == .marking) +
        (enqueuedIn ⟨w, i, w'⟩).toList.countP WorkerCommand.isStop := by
  have started {p : Point} (hp : p.stage = .outside) :
      (w.call p).stages.countP (· == .marking) = w.stages.countP (· == .marking) := by
    rw [w.call_stages hp, Threads.countP_start]
    rfl
  have mapped (g : Option Nat) (f : AbandonmentGuard → AbandonmentGuard) :
      (w.dispatcher.mapGuard g f).stopEnqueued = w.dispatcher.stopEnqueued := by
    obtain ⟨guards, heq⟩ := mapGuard_eq g f w.dispatcher
    rw [heq]
  cases h with
  | newGuard => exact congrArg _ (started rfl)
  | @prepare lease _ =>
      have hstop : (w.dispatcher.keep lease).stopEnqueued = w.dispatcher.stopEnqueued := mapped _ _
      show (w.dispatcher.keep lease).stopEnqueued.toNat + _ = _
      rw [hstop]
      exact congrArg _ (started (p := .acquire (.prepare lease)) rfl)
  | @withoutLease binary lease _ => exact congrArg _ (started (prepareCloexec_stage binary lease))
  | closeAndJoin => exact congrArg _ (started rfl)
  | copyTerm _ _ => rfl
  | dropTerm _ _ => rfl
  | @destroy g command _ => exact congrArg _ (started (p := .acquire (.abandoned command)) rfl)
  | work hwork =>
      have hsame : ∀ {d}, Works w.dispatcher d → d.stopEnqueued = w.dispatcher.stopEnqueued :=
        fun hworks => by cases hworks <;> rfl
      show Bool.toNat _ + _ = _
      rw [hsame (work_works hwork)]
      rfl
  | @turn call go p p' d hp hturn =>
      have hstage : w.stages[call]? = some p.stage := by
        rw [World.stages, List.getElem?_map, hp]
        rfl
      have hcount := Threads.countP_turn (· == Stage.marking)
        (show Threads.Turn w.stages call p.stage p'.stage _ from .mk hstage)
      have hmove : Moves w.dispatcher p.stage d p'.stage := turn_fits hturn
      have hstops := hmove.stops (hsound.unstopped (List.mem_of_getElem? hstage))
      rw [turn_sends hturn, List.countP_append] at hstops
      have henqueued : enqueuedIn ⟨w, .turn call go,
          { w with dispatcher := d, calls := w.calls.set call p' }⟩ = p.sends := by
        simp [enqueuedIn, pointIn, hp]
      have hstages : ({ w with dispatcher := d, calls := w.calls.set call p' } : World).stages =
          w.stages.set call p'.stage := List.map_set
      rw [henqueued, hstages]
      show d.stopEnqueued.toNat + _ = _
      omega

/-- `Stop` is sent by the one who then says so. -/
theorem Run.stops (h : Run visits w) :
    (visits.filterMap enqueuedIn).countP WorkerCommand.isStop =
      w.dispatcher.stopEnqueued.toNat + w.stages.countP (· == .marking) := by
  induction h with
  | nil => rfl
  | @snoc visits w i w' hrun hst ih =>
      have hstep := (Run.steps hrun hst).stops (Run.sound hrun).2
      rw [List.filterMap_append, List.countP_append, filterMap_one, ih, hstep]

/-- **`Stop` is sent at most once.** -/
theorem Run.one_stop (h : Run visits w) :
    (visits.filterMap enqueuedIn).countP WorkerCommand.isStop ≤ 1 := by
  have hmarking : w.stages.countP (· == .marking) ≤ w.stages.countP Stage.unmarked := by
    refine List.countP_mono_left fun s _ hs => ?_
    rw [beq_iff_eq.mp hs]
    rfl
  have hunmarked := h.sound.2.unmarked
  rw [h.stops]
  omega

/-- A closer has come past the clients before `Stop` is sent. -/
theorem Run.stopped_past (h : Run visits w) {v : Visit World Input} (hv : v ∈ visits)
    (hstop : enqueuedIn v = some .stop) : ∃ s ∈ w.stages, s.past = true := by
  have hpos : 0 < (visits.filterMap enqueuedIn).countP WorkerCommand.isStop :=
    List.countP_pos_iff.mpr ⟨.stop, List.mem_filterMap.mpr ⟨v, hv, hstop⟩, rfl⟩
  rw [h.stops] at hpos
  by_cases hmarking : 0 < w.stages.countP (· == .marking)
  · obtain ⟨s, hs, heq⟩ := List.countP_pos_iff.mp hmarking
    refine ⟨s, hs, ?_⟩
    rw [beq_iff_eq.mp heq]
    rfl
  · refine h.sound.2.passed ?_
    cases hd : w.dispatcher.stopEnqueued with
    | true => rfl
    | false => rw [hd, Bool.toNat_false] at hpos; omega

/-- Who sends a command is inside, or about to stop. -/
theorem sends_stage {command : WorkerCommand} (h : p.sends = some command) :
    (command.isStop = false ∧ p.stage = .inside) ∨ (command = .stop ∧ p.stage = .stopping) := by
  unfold Point.sends at h
  split at h <;> cases h
  · exact .inl ⟨rfl, rfl⟩
  · exact .inl ⟨rfl, rfl⟩
  · exact .inr ⟨rfl, rfl⟩

/-- **Nothing is sent after `Stop`.** -/
theorem Run.after_stop (h : Run visits w) {before after : List (Visit World Input)}
    {v : Visit World Input} (heq : visits = before ++ v :: after)
    (hstop : enqueuedIn v = some .stop) : ∀ u ∈ after, enqueuedIn u = none := by
  intro u hu
  obtain ⟨after₁, after₂, rfl⟩ := List.append_of_mem hu
  have hlist : visits = (before ++ v :: after₁) ++ u :: after₂ := by simp [heq]
  rw [hlist] at h
  obtain ⟨hpre, -, -⟩ := Path.split h
  have hrun : Run (before ++ v :: after₁) u.pre := hpre
  cases hsent : enqueuedIn u with
  | none => rfl
  | some command =>
      obtain ⟨p, hp, hsends⟩ := Option.bind_eq_some_iff.mp hsent
      have hmem : p.stage ∈ u.pre.stages := by
        unfold pointIn at hp
        split at hp
        · exact List.mem_map_of_mem (List.mem_of_getElem? hp)
        · cases hp
      rcases sends_stage hsends with ⟨-, hinside⟩ | ⟨rfl, -⟩
      · have hpast := hrun.stopped_past (v := v) (by simp) hstop
        exact absurd hinside (hrun.sound.2.barrier hpast _ hmem)
      · -- There would be two of them.
        have hone := Run.one_stop h
        rw [List.append_assoc, List.cons_append, List.filterMap_append,
          List.filterMap_cons_some hstop, List.filterMap_append, List.filterMap_cons_some hsent,
          List.countP_append, List.countP_cons_of_pos rfl, List.countP_append,
          List.countP_cons_of_pos rfl] at hone
        omega

/-! ## Admissions -/

/-- The stage of a call, outside before it is made. -/
def World.stageOf (w : World) (call : Nat) : Stage := (w.stages[call]?).getD .outside

theorem World.stageOf_some {call : Nat} (h : w.calls[call]? = some p) :
    w.stageOf call = p.stage := by
  rw [World.stageOf, World.stages, List.getElem?_map, h]
  rfl

theorem stageOf_append (stages : List Stage) (call : Nat) :
    ((stages ++ [.outside])[call]?).getD .outside = (stages[call]?).getD .outside := by
  rw [List.getElem?_append]
  split
  · rfl
  · next hlen =>
      rw [List.getElem?_eq_none (Nat.le_of_not_lt hlen)]
      cases call - stages.length <;> rfl

/-- An input that is no turn of a call leaves the stages of the calls. -/
theorem Steps.stageOf (h : Steps w i w') (call : Nat) :
    (∃ go p p' d, i = .turn call go ∧ w.calls[call]? = some p ∧
        Dispatcher.turn w.dispatcher go p = some (.next d p') ∧ w'.dispatcher = d ∧
        w'.stageOf call = p'.stage) ∨
      ((∀ go, i ≠ .turn call go) ∧ w'.stageOf call = w.stageOf call) := by
  have started {p : Point} (hp : p.stage = .outside) :
      (w.call p).stageOf call = w.stageOf call := by
    rw [World.stageOf, w.call_stages hp, stageOf_append]
    rfl
  cases h with
  | newGuard => exact .inr ⟨nofun, started rfl⟩
  | @prepare lease _ => exact .inr ⟨nofun, started (p := .acquire (.prepare lease)) rfl⟩
  | @withoutLease binary lease _ =>
      exact .inr ⟨nofun, started (prepareCloexec_stage binary lease)⟩
  | closeAndJoin => exact .inr ⟨nofun, started rfl⟩
  | copyTerm _ _ => exact .inr ⟨nofun, rfl⟩
  | dropTerm _ _ => exact .inr ⟨nofun, rfl⟩
  | @destroy g command _ => exact .inr ⟨nofun, started (p := .acquire (.abandoned command)) rfl⟩
  | work _ => exact .inr ⟨nofun, rfl⟩
  | @turn call' go p p' d hp hturn =>
      by_cases heq : call' = call
      · subst heq
        refine .inl ⟨go, p, p', d, rfl, hp, hturn, rfl, World.stageOf_some ?_⟩
        obtain ⟨hlt, -⟩ := List.getElem?_eq_some_iff.mp hp
        exact List.getElem?_set_self hlt
      · refine .inr ⟨fun go' hgo => heq (Input.turn.inj hgo).1, ?_⟩
        show (((w.calls.set call' p').map Point.stage)[call]?).getD .outside = _
        rw [List.map_set, List.getElem?_set_ne heq]
        rfl

/-- **A call has added to `active_clients` what its stage counts for.** -/
theorem Run.clients (h : Run visits w) (call : Nat) :
    (visits.map (clientsIn call)).sum = (w.stageOf call).counted.toNat := by
  induction h with
  | nil => rfl
  | @snoc visits w i w' hrun hst ih =>
      rw [List.map_append, List.sum_append, ih, List.map_singleton, List.sum_singleton]
      rcases (Run.steps hrun hst).stageOf call with
        ⟨go, p, p', d, rfl, hp, hturn, hd, hstage⟩ | ⟨hother, hstage⟩
      · have hmove := (show Moves _ p.stage d p'.stage from turn_fits hturn).clients
        rw [hstage, World.stageOf_some hp]
        simp only [clientsIn, if_true, hd]
        omega
      · have hzero : clientsIn call ⟨w, i, w'⟩ = 0 := by
          unfold clientsIn
          split
          · next call' go hinput =>
              rw [if_neg]
              rintro rfl
              exact hother go hinput
          · rfl
        rw [hstage, hzero, Int.add_zero]

/-- Has an admission been refused here? -/
def Point.isRefused : Point → Bool
  | .refused _ | .inert => true
  | .returned (.guardRefused _) | .returned .abandonmentInert
  | .returned (.prepareFailed (.dispatcher _)) => true
  | _ => false

theorem Point.isRefused_counted (h : p.isRefused = true) : p.stage.counted = false := by
  unfold Point.isRefused at h
  split at h <;> first | rfl | cases h

/-- **The admission barrier.**  In every interleaving no turn ends the process;
nothing is sent after `Stop`; what was dispatched was handled or is pending, and
nothing is pending when the worker leaves; `active_clients` is the number of calls
that count as clients; and a call that was refused has left it as it was. -/
theorem admission_barrier (h : Run visits w) :
    w.fatal = none ∧
      (∀ before v after, visits = before ++ v :: after → enqueuedIn v = some .stop →
        ∀ u ∈ after, enqueuedIn u = none) ∧
      visits.filterMap dispatchedIn = visits.filterMap handledIn ++ w.dispatcher.pending ∧
      (w.dispatcher.thread.left = true → w.dispatcher.pending = []) ∧
      w.dispatcher.activeClients = w.calls.countP (fun p => p.stage.counted) ∧
      ∀ call p, w.calls[call]? = some p → p.isRefused = true →
        (visits.map (clientsIn call)).sum = 0 := by
  obtain ⟨hfatal, hsound⟩ := h.sound
  refine ⟨hfatal, fun before v after heq hstop => h.after_stop heq hstop, h.dispatched,
    fun hleft => ?_, ?_, fun call p hp hrefused => ?_⟩
  · rw [ReleaseDispatcher.pending, hsound.drained hleft]
    cases hthread : w.dispatcher.thread with
    | sending command => rw [hthread] at hleft; cases hleft
    | _ => rfl
  · rw [hsound.clients, World.stages, List.countP_map]
    rfl
  · rw [h.clients call, World.stageOf_some hp, Point.isRefused_counted hrefused]
    rfl

/-- A guard is made and destroyed, and the dispatcher is closed while a second guard is
asked for. -/
def sampleInputs : List Input :=
  .newGuard 1000 (.reference 20) 21 :: List.replicate 5 (Input.turn 0 true) ++
    .dropTerm 0 :: .destroy 0 :: List.replicate 5 (Input.turn 1 true) ++
    .closeAndJoin :: List.replicate 3 (Input.turn 2 true) ++
    .newGuard 1000 (.reference 20) 22 :: List.replicate 2 (Input.turn 3 true) ++
    List.replicate 6 (Input.turn 2 true) ++ List.replicate 4 (Input.work true) ++
    List.replicate 7 (Input.turn 2 true)

/-- The abandonment is handled before the worker leaves, and the second guard is refused. -/
theorem admission_barrier_sample : ∃ visits w, Run visits w ∧ w.dispatcher.health = .stopped ∧
    w.fatal = none ∧
    visits.filterMap dispatchedIn = [⟨.abandoned, 1000, .reference 20, 21⟩] ∧
    visits.filterMap handledIn = [⟨.abandoned, 1000, .reference 20, 21⟩] ∧
    w.calls[3]? = some (.returned (.guardRefused .stopping)) ∧
    (visits.map (clientsIn 3)).sum = 0 := by
  have hsome : (perform sampleInputs).isSome = true := rfl
  have hrun : Run ((perform sampleInputs).get hsome).1 ((perform sampleInputs).get hsome).2 :=
    perform_run hsome
  have hhandled : ((perform sampleInputs).get hsome).1.filterMap handledIn =
      [⟨.abandoned, 1000, .reference 20, 21⟩] := rfl
  have hthird : ((perform sampleInputs).get hsome).2.calls[3]? =
      some (.returned (.guardRefused .stopping)) := rfl
  obtain ⟨hfatal, -, hdispatched, hleft, -, hrefused⟩ := admission_barrier hrun
  rw [hleft rfl, List.append_nil] at hdispatched
  exact ⟨((perform sampleInputs).get hsome).1, ((perform sampleInputs).get hsome).2, hrun, rfl,
    hfatal, hdispatched.trans hhandled, hhandled, hthird, hrefused 3 _ hthird rfl⟩

end VideoInterop.Dispatcher
