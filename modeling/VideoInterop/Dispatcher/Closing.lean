import VideoInterop.Dispatcher.Commands

/-!
# Closing the dispatcher

Any number of calls of `close_and_join`, one after the other or at once.  The
handle is taken and joined at most once, the health goes from healthy to stopping to
stopped, and a call that returns without an error finds it stopped.

A call that times out leaves the dispatcher to others, and a later one can still
finish.  That is shown by a schedule: all calls that are under way come to their end
when their waiting is cut short (`rank` is what is left of them), the worker empties
its queue, and then one more call has nothing to wait for.
-/

namespace VideoInterop.Dispatcher

variable {d d' : ReleaseDispatcher} {p p' : Point} {go : Bool} {w w' : World} {i : Input}
  {visits : List (Visit World Input)} {call : Nat}

/-! ## Health -/

/-- Nothing but closing changes the health, and the worker changes none of it. -/
theorem Steps.health (h : Steps w i w') (hsound : Sound w.dispatcher w.stages) :
    w'.dispatcher.health = w.dispatcher.health ∨
      (w.dispatcher.health = .healthy ∧ w'.dispatcher.health = .stopping) ∨
      (w.dispatcher.health = .stopping ∧ w'.dispatcher.health = .stopped) := by
  have hshifts := h.shifts
  generalize w'.dispatcher = d', w'.stages = stages' at hshifts ⊢
  cases hshifts with
  | start => exact .inl rfl
  | guards => exact .inl rfl
  | work hworks => cases hworks <;> exact .inl rfl
  | turn hturn hmoves =>
      rcases hmoves.health with heq | hbegin | ⟨hjoining, heq⟩
      · exact .inl heq
      · exact .inr (.inl hbegin)
      · refine .inr (.inr ⟨?_, heq⟩)
        have hmem := hturn.mem
        have hhealthy := hsound.informed _ hmem (by rw [hjoining]; rfl)
        have hstopped := hsound.unpublished hmem hjoining
        have hfailed := hsound.failed
        cases hd : w.dispatcher.health with
        | stopping => rfl
        | healthy => exact absurd hd hhealthy
        | stopped => exact absurd hd hstopped
        | failed => exact absurd hd hfailed

/-! ## The handle -/

/-- Does a visit take the join handle? -/
def takesIn (v : Visit World Input) : Bool :=
  v.pre.dispatcher.worker && !v.post.dispatcher.worker

/-- Is a worker to be joined? -/
def Point.isJoin : Point → Bool
  | .join => true
  | _ => false

/-- Is the end to be published? -/
def Point.isPublish : Point → Bool
  | .publish => true
  | _ => false

/-- Does a visit join the worker? -/
def joinsIn (v : Visit World Input) : Bool :=
  match pointIn v with
  | some p => p.isJoin
  | none => false

theorem Shifts.worker {stages stages' : List Stage} (h : Shifts d stages d' stages') :
    d'.worker = d.worker ∨ (d.worker = true ∧ d'.worker = false) := by
  cases h with
  | start => exact .inl rfl
  | guards => exact .inl rfl
  | work hworks => cases hworks <;> exact .inl rfl
  | turn _ hmoves =>
      cases hmoves with
      | take hworker _ _ => exact .inr ⟨hworker, rfl⟩
      | _ => exact .inl rfl

/-- The handle is taken when it is not there any more. -/
theorem Run.takes (h : Run visits w) : visits.countP takesIn = (!w.dispatcher.worker).toNat := by
  induction h with
  | nil => rfl
  | @snoc visits w i w' hrun hst ih =>
      rw [List.countP_append, List.countP_singleton, ih]
      unfold takesIn
      rcases (Run.steps hrun hst).shifts.worker with heq | ⟨hold, hnew⟩
      · rw [heq]
        cases w.dispatcher.worker <;> rfl
      · rw [hold, hnew]
        rfl

/-- Only a join leads to the publication. -/
theorem turn_publish (h : turn d go p = some (.next d' p')) :
    p'.isPublish = p.isJoin := by
  cases p with
  | duplicate lease => cases lease <;> simp only [turn] at h <;> split at h <;> cases h <;> rfl
  | prepared lease => cases lease <;> simp only [turn] at h <;> split at h <;> cases h <;> rfl
  | claimed lease =>
      cases lease with
      | none => cases h; rfl
      | some lease =>
          simp only [turn] at h
          split at h <;> cases h
          rfl
  | refused use => cases use <;> cases h <;> rfl
  | recheck use =>
      simp only [turn, Option.some.injEq] at h
      split at h <;> cases h
      · cases use <;> rfl
      · rfl
  | leave after =>
      simp only [turn, releaseClient, Option.some.injEq] at h
      split at h <;> cases h
      cases after <;> rfl
  | joinUnlock taken => cases taken <;> cases h <;> rfl
  | dropKeepalive lease retire => cases retire <;> cases h <;> rfl
  | _ =>
      simp only [turn, releaseClient, sleepUntilRetry, tryLock, unlock, Option.some.injEq] at h
      repeat' split at h
      all_goals cases h
      all_goals rfl

/-- Only the publication makes it stopped. -/
theorem turn_stopped (h : turn d go p = some (.next d' p'))
    (hpublish : p.isPublish = true → d.health ≠ .stopped) :
    (decide (d'.health = .stopped)).toNat =
      (decide (d.health = .stopped)).toNat + p.isPublish.toNat := by
  cases hp : p.isPublish with
  | true =>
      cases p <;> cases hp
      cases h
      rw [decide_eq_false (hpublish rfl)]
      rfl
  | false =>
      have hmoves : Moves d p.stage d' p'.stage := turn_fits h
      rcases hmoves.health with heq | ⟨hold, hnew⟩ | ⟨hjoining, -⟩
      · rw [heq]
        rfl
      · rw [hold, hnew]
        rfl
      · -- The join itself leaves the health.
        cases p with
        | join => cases h; rfl
        | publish => cases hp
        | joinUnlock taken => cases taken <;> cases hjoining
        | duplicate lease => cases lease <;> cases hjoining
        | prepared lease => cases lease <;> cases hjoining
        | claimed lease => cases lease <;> cases hjoining
        | closed result =>
            cases result with
            | error e => cases e <;> cases hjoining
            | ok u => cases hjoining
        | _ => cases hjoining

theorem Run.unpublished (h : Run visits w) (hp : p ∈ w.calls) (hpublish : p.isPublish = true) :
    w.dispatcher.health ≠ .stopped := by
  refine h.sound.2.unpublished (List.mem_map_of_mem hp) ?_
  cases p <;> first | rfl | cases hpublish

/-- A worker that was joined is published as stopped, or is about to be. -/
theorem Run.joins (h : Run visits w) :
    visits.countP joinsIn =
      w.calls.countP Point.isPublish + (decide (w.dispatcher.health = .stopped)).toNat := by
  induction h with
  | nil => rfl
  | @snoc visits w i w' hrun hst ih =>
      rw [List.countP_append, List.countP_singleton, ih]
      rcases (Run.steps hrun hst).calls with
        ⟨call, go, p, p', d, rfl, hp, hturn, rfl⟩ | ⟨hother, hhealth, started, hcalls, hstart⟩
      · have hcount := Threads.countP_turn Point.isPublish
          (show Threads.Turn w.calls call p p' _ from .mk hp)
        have hjoin : joinsIn ⟨w, .turn call go,
            { w with dispatcher := d, calls := w.calls.set call p' }⟩ = p.isJoin := by
          simp only [joinsIn, pointIn, hp]
        have hstopped := turn_stopped hturn (Run.unpublished hrun (List.mem_of_getElem? hp))
        rw [turn_publish hturn] at hcount
        rw [hjoin]
        show _ = (w.calls.set call p').countP _ + (decide (d.health = .stopped)).toNat
        cases hj : p.isJoin <;> simp only [hj] at hcount ⊢ <;> simp at hcount ⊢ <;> omega
      · have hnone : started.countP Point.isPublish = 0 := by
          refine List.countP_eq_zero.mpr fun p hp hpublish => ?_
          have hp' := hstart p hp
          cases p <;> first
            | exact absurd hpublish Bool.false_ne_true
            | exact absurd hp' Bool.false_ne_true
        have hjoin : joinsIn ⟨w, i, w'⟩ = false := by
          unfold joinsIn pointIn
          split
          · next heq =>
              split at heq
              · next call go hinput => exact absurd hinput (hother call go)
              · cases heq
          · rfl
        rw [hjoin, hcalls, hhealth, List.countP_append, hnone]
        rfl

/-- **The worker is taken and joined at most once**, and it is stopped only after. -/
theorem Run.one_join (h : Run visits w) :
    visits.countP takesIn ≤ 1 ∧ visits.countP joinsIn ≤ visits.countP takesIn ∧
      (w.dispatcher.health = .stopped → visits.countP joinsIn = 1) := by
  have hsound := h.sound.2
  have htakes := h.takes
  have hjoins := h.joins
  have hpublish : w.calls.countP Point.isPublish ≤ w.stages.countP Stage.joins := by
    rw [World.stages, List.countP_map]
    refine List.countP_mono_left fun p _ hp => ?_
    cases p <;> first | rfl | cases hp
  have hsum := hsound.joiners
  have hhandle : (!w.dispatcher.worker).toNat = w.dispatcher.joining.toNat := by
    rw [hsound.handle, Bool.not_not]
  have hone : w.dispatcher.joining.toNat ≤ 1 := Bool.toNat_le _
  refine ⟨by omega, by omega, fun hstopped => ?_⟩
  rw [decide_eq_true hstopped, Bool.toNat_true] at hjoins hsum
  omega

/-! ## Calls that come back -/

/-- Errors of calls that ran out of time. -/
def CloseError.isTimeout : CloseError → Bool
  | .clientsTimeout | .ownershipTimeout | .drainTimeout => true
  | _ => false

/-- **A call that timed out leaves a closing dispatcher**, with the handle in its
place, with another closer that has it, or stopped by that closer. -/
theorem Run.timed_out (h : Run visits w) {error : CloseError}
    (hp : .closed (.error error) ∈ w.calls) (htimeout : error.isTimeout = true) :
    (w.dispatcher.health = .stopping ∧
        (w.dispatcher.worker = true ∨ ∃ p ∈ w.calls, p.stage.joins = true)) ∨
      w.dispatcher.health = .stopped := by
  have hsound := h.sound.2
  have hmem : (Point.closed (.error error)).stage ∈ w.stages := List.mem_map_of_mem hp
  have hhealthy := hsound.informed _ hmem (by cases error <;> first | rfl | cases htimeout)
  cases hhealth : w.dispatcher.health with
  | healthy => exact absurd hhealth hhealthy
  | failed => exact absurd hhealth hsound.failed
  | stopped => exact .inr rfl
  | stopping =>
      refine .inl ⟨rfl, ?_⟩
      cases hworker : w.dispatcher.worker with
      | true => exact .inl rfl
      | false =>
          have hhandle := hsound.handle
          have hsum := hsound.joiners
          rw [hworker] at hhandle
          have hjoining : w.dispatcher.joining = true := by simpa using hhandle
          rw [hhealth, hjoining] at hsum
          have hpos : 0 < w.stages.countP Stage.joins := by simpa using Nat.le_of_eq hsum.symm
          obtain ⟨s, hs, hjoins⟩ := List.countP_pos_iff.mp hpos
          obtain ⟨p, hp, rfl⟩ := List.mem_map.mp hs
          exact .inr ⟨p, hp, hjoins⟩

theorem Run.closed_ok (h : Run visits w) (hp : .closed (.ok ()) ∈ w.calls) :
    w.dispatcher.health = .stopped :=
  h.sound.2.closed _ (List.mem_map_of_mem (f := Point.stage) hp) rfl

theorem Run.available (h : Run visits w) :
    .closed (.error .workerUnavailable) ∉ w.calls := fun hp =>
  h.sound.2.available _ (List.mem_map_of_mem (f := Point.stage) hp) (.inr rfl)

/-! ## Deadlines that overflow -/

/-- A turn leads to the start of no call, and to an overflow only from there. -/
theorem turn_overflow (h : turn d go p = some (.next d' p')) :
    p' ≠ .closeAndJoin ∧
      (p' = .closed (.error .deadlineTooLarge) → p = .closeAndJoin ∧ d' = d) := by
  cases p with
  | duplicate lease =>
      cases lease <;> simp only [turn] at h <;> split at h <;> cases h <;> simp
  | prepared lease =>
      cases lease <;> simp only [turn] at h <;> split at h <;> cases h <;> simp
  | claimed lease =>
      cases lease with
      | none => cases h; simp
      | some lease =>
          simp only [turn] at h
          split at h <;> cases h
          simp
  | refused use => cases use <;> cases h <;> simp
  | recheck use =>
      simp only [turn, Option.some.injEq] at h
      split at h <;> cases h
      · cases use <;> simp [Use.granted]
      · simp
  | leave after =>
      simp only [turn, releaseClient, Option.some.injEq] at h
      split at h <;> cases h
      cases after <;> simp [After.point]
  | joinUnlock taken => cases taken <;> cases h <;> simp
  | dropKeepalive lease retire => cases retire <;> cases h <;> simp
  | closeAndJoin =>
      simp only [turn, Option.some.injEq] at h
      split at h <;> cases h
      · simp
      · simp
  | _ =>
      simp only [turn, releaseClient, sleepUntilRetry, tryLock, unlock, Option.some.injEq] at h
      repeat' split at h
      all_goals cases h
      all_goals simp

/-- Is the visit a turn of the call? -/
def turnOf (call : Nat) (v : Visit World Input) : Bool :=
  match v.input with
  | .turn call' _ => call' == call
  | _ => false

/-- **A call with a deadline that overflows changes nothing.** -/
theorem Run.overflow (h : Run visits w) (call : Nat) :
    (w.calls[call]? = none ∨ w.calls[call]? = some .closeAndJoin →
        ∀ v ∈ visits, turnOf call v = false) ∧
      (w.calls[call]? = some (.closed (.error .deadlineTooLarge)) →
        ∀ v ∈ visits, turnOf call v = true → v.post.dispatcher = v.pre.dispatcher) := by
  induction h with
  | nil =>
      exact ⟨fun _ v hv => absurd hv List.not_mem_nil,
        fun _ v hv => absurd hv List.not_mem_nil⟩
  | @snoc visits w i w' hrun hst ih =>
      obtain ⟨hnew, hover⟩ := ih
      rcases (Run.steps hrun hst).calls with
        ⟨call', go, p, p', d, rfl, hp, hturn, rfl⟩ | ⟨hother, -, started, hcalls, hstart⟩
      · by_cases heq : call' = call
        · subst heq
          have hlt := (List.getElem?_eq_some_iff.mp hp).1
          have hset : ({ w with
              dispatcher := d, calls := w.calls.set call' p' } : World).calls[call']? = some p' :=
            List.getElem?_set_self hlt
          obtain ⟨hnot, hovers⟩ := turn_overflow hturn
          rw [hset]
          refine ⟨fun hor => ?_, fun hclosed v hv hturnOf => ?_⟩
          · rcases hor with hor | hor
            · cases hor
            · exact absurd (Option.some.inj hor) hnot
          · obtain ⟨rfl, rfl⟩ := hovers (Option.some.inj hclosed)
            rcases List.mem_append.mp hv with hv | hv
            · rw [hnew (.inr hp) v hv] at hturnOf
              cases hturnOf
            · rw [List.mem_singleton.mp hv]
        · have hset : ({ w with
              dispatcher := d, calls := w.calls.set call' p' } : World).calls[call]? =
                w.calls[call]? := List.getElem?_set_ne heq
          have hone : turnOf call ⟨w, .turn call' go,
              { w with dispatcher := d, calls := w.calls.set call' p' }⟩ = false :=
            beq_eq_false_iff_ne.mpr heq
          rw [hset]
          refine ⟨fun hor => ?_, fun hclosed => ?_⟩
          · intro v hv
            rcases List.mem_append.mp hv with hv | hv
            · exact hnew hor v hv
            · rw [List.mem_singleton.mp hv, hone]
          · intro v hv hturnOf
            rcases List.mem_append.mp hv with hv | hv
            · exact hover hclosed v hv hturnOf
            · rw [List.mem_singleton.mp hv, hone] at hturnOf
              cases hturnOf
      · have hone : turnOf call ⟨w, i, w'⟩ = false := by
          unfold turnOf
          split
          · next call' go hinput => exact absurd hinput (hother call' go)
          · rfl
        have hcase : w'.calls[call]? = w.calls[call]? ∨
            (w.calls[call]? = none ∧ ∃ p, w'.calls[call]? = some p ∧ p.isStart = true) := by
          rw [hcalls, List.getElem?_append]
          split
          · exact .inl rfl
          · next hlen =>
              have hnone := List.getElem?_eq_none (Nat.le_of_not_lt hlen)
              cases hp : started[call - w.calls.length]? with
              | none => exact .inl hnone.symm
              | some p => exact .inr ⟨hnone, p, rfl, hstart p (List.mem_of_getElem? hp)⟩
        have hold {P : Visit World Input → Prop} (hall : ∀ v ∈ visits, P v) (hlast : P ⟨w, i, w'⟩) :
            ∀ v ∈ visits ++ [⟨w, i, w'⟩], P v := Threads.forall_start hall hlast
        refine ⟨fun hor => hold (hnew ?_) hone, fun hclosed => ?_⟩
        · rcases hcase with heq | ⟨hnone, -⟩
          · rw [← heq]
            exact hor
          · exact .inl hnone
        · rcases hcase with heq | ⟨-, p, hp, hstart⟩
          · rw [heq] at hclosed
            exact hold (hover hclosed) fun hturnOf => by rw [hone] at hturnOf; cases hturnOf
          · rw [hp] at hclosed
            cases hclosed
            cases hstart

/-! ## Cutting calls short -/

/-- Is the call through? -/
def Point.isFinal : Point → Bool
  | .closed _ | .returned _ => true
  | _ => false

/-- At most so many turns are left of a call whose waiting is cut short. -/
def rank (d : ReleaseDispatcher) : Point → Nat
  | .closed _ | .returned _ => 0
  | .inert | .dropRetired => 1
  | .refused _ | .dropKeepalive .. => 2
  | .withdraw _ | .leave _ => 3
  | .admitted _ | .dispatch .. | .claimed _ | .dropPrepared .. => 4
  | .prepared _ => 5
  | .duplicate _ => 6
  | .recheck _ => 7
  | .enter _ => 8
  | .acquire _ => 9
  | .clientsSleep | .stopSleep | .joinSleep | .drainSleep => 1
  | .stopUnavailable | .joinUnavailable | .publish => 1
  | .join => 2
  | .joinUnlock _ => 3
  | .inspect => 4
  | .lockToJoin => 5
  | .checkFailed => 6
  | .checkStopped => 7
  | .stopUnlock => 8
  | .stopMark => 9
  | .stopSend => 10
  | .stopCheck => 11
  | .lockToStop => 12
  | .waitForClients => 13
  | .beginClose => if d.health = .healthy then 15 else 14
  | .swapHealth => if d.health = .healthy then 14 else 15
  | .closeAndJoin => 16

theorem turn_rank (h : turn d false p = some (.next d' p')) : rank d' p' < rank d p := by
  cases p with
  | duplicate lease => cases lease <;> cases h <;> simp [rank]
  | prepared lease => cases lease <;> cases h <;> simp [rank]
  | claimed lease =>
      cases lease with
      | none => cases h; simp [rank]
      | some lease =>
          simp only [turn] at h
          split at h <;> cases h
          simp [rank]
  | refused use => cases use <;> cases h <;> simp [rank]
  | recheck use =>
      simp only [turn, Option.some.injEq] at h
      split at h <;> cases h
      · cases use <;> simp [Use.granted, rank]
      · simp [rank]
  | leave after =>
      simp only [turn, releaseClient, Option.some.injEq] at h
      split at h <;> cases h
      cases after <;> simp [After.point, rank]
  | joinUnlock taken => cases taken <;> cases h <;> simp [rank]
  | dropKeepalive lease retire => cases retire <;> cases h <;> simp [rank]
  | beginClose =>
      simp only [turn] at h
      split at h <;> cases h <;> simp [rank, *]
  | swapHealth =>
      simp only [turn, Option.some.injEq] at h
      split at h <;> cases h <;> simp [rank, *]
  | _ =>
      simp only [turn, releaseClient, sleepUntilRetry, tryLock, unlock, Option.some.injEq] at h
      repeat' split at h
      all_goals cases h
      all_goals first | contradiction | simp [rank]

/-- A call that is not through has a turn. -/
theorem turn_some (d : ReleaseDispatcher) (go : Bool) (hp : p.isFinal = false) :
    ∃ outcome, turn d go p = some outcome := by
  cases p with
  | closed result => cases hp
  | returned result => cases hp
  | duplicate lease => cases lease <;> exact ⟨_, rfl⟩
  | prepared lease => cases lease <;> exact ⟨_, rfl⟩
  | claimed lease =>
      cases lease with
      | none => exact ⟨_, rfl⟩
      | some lease =>
          simp only [turn]
          split <;> exact ⟨_, rfl⟩
  | dispatch command after =>
      simp only [turn]
      split <;> exact ⟨_, rfl⟩
  | stopSend =>
      simp only [turn]
      split <;> exact ⟨_, rfl⟩
  | beginClose =>
      simp only [turn]
      split <;> exact ⟨_, rfl⟩
  | _ => exact ⟨_, rfl⟩

/-- Some run goes on from `w` to `w'`. -/
def Continues (w w' : World) : Prop := ∃ visits, Path (fun w i w' => step w i = some w') w visits w'

/-- Some run ends in `w`. -/
def Reachable (w : World) : Prop := Continues .start w

theorem Continues.refl (w : World) : Continues w w := ⟨[], .nil⟩

theorem Continues.trans {w'' : World} (h : Continues w w') (h' : Continues w' w'') :
    Continues w w'' := by
  obtain ⟨_, hpath⟩ := h
  obtain ⟨_, hpath'⟩ := h'
  exact ⟨_, hpath.append hpath'⟩

theorem Continues.one (h : step w i = some w') : Continues w w' := ⟨_, .snoc .nil h⟩

theorem Reachable.sound (h : Reachable w) : w.fatal = none ∧ Sound w.dispatcher w.stages := by
  obtain ⟨visits, hrun⟩ := h
  exact Run.sound hrun

theorem step_turn (hfatal : w.fatal = none) (hp : w.calls[call]? = some p)
    (h : turn w.dispatcher go p = some (.next d' p')) :
    step w (.turn call go) = some { w with dispatcher := d', calls := w.calls.set call p' } := by
  unfold step
  rw [if_neg (by rw [hfatal]; exact Bool.false_ne_true)]
  simp only [hp, h]

/-- A reachable dispatcher takes the turn of a call that is not through. -/
theorem Reachable.turn (h : Reachable w) (hp : w.calls[call]? = some p)
    (hfinal : p.isFinal = false) (go : Bool) :
    ∃ d' p', Dispatcher.turn w.dispatcher go p = some (.next d' p') ∧
      Continues w { w with dispatcher := d', calls := w.calls.set call p' } := by
  obtain ⟨hfatal, hsound⟩ := h.sound
  obtain ⟨outcome, hturn⟩ := turn_some w.dispatcher go hfinal
  cases outcome with
  | next d' p' => exact ⟨d', p', hturn, .one (step_turn hfatal hp hturn)⟩
  | abort reason =>
      have hmem : p.stage ∈ w.stages := List.mem_map_of_mem (List.mem_of_getElem? hp)
      exact (hsound.aborts hmem (turn_fits hturn)).elim

/-- A call comes to its end. -/
theorem Reachable.settle_call (h : Reachable w) (hp : w.calls[call]? = some p) :
    ∃ w' p', Continues w w' ∧ w'.calls = w.calls.set call p' ∧ p'.isFinal = true := by
  generalize hn : rank w.dispatcher p = n
  induction n using Nat.strong_induction_on generalizing w p with
  | _ n ih =>
      cases hfinal : p.isFinal with
      | true =>
          obtain ⟨hlt, heq⟩ := List.getElem?_eq_some_iff.mp hp
          exact ⟨w, p, .refl w, by rw [← heq, List.set_getElem_self], hfinal⟩
      | false =>
          obtain ⟨d', p', hturn, hone⟩ := h.turn hp hfinal false
          have hlt := (List.getElem?_eq_some_iff.mp hp).1
          obtain ⟨w'', p'', hmore, hcalls, hfinal'⟩ :=
            ih _ (hn ▸ turn_rank hturn)
              (w := { w with dispatcher := d', calls := w.calls.set call p' })
              (h.trans hone) (List.getElem?_set_self hlt) rfl
          exact ⟨w'', p'', hone.trans hmore, by rw [hcalls, List.set_set], hfinal'⟩

/-- All calls come to their ends. -/
theorem Reachable.settle (h : Reachable w) :
    ∃ w', Continues w w' ∧ w'.calls.length = w.calls.length ∧
      ∀ p ∈ w'.calls, p.isFinal = true := by
  generalize hn : w.calls.countP (fun p => !p.isFinal) = n
  induction n using Nat.strong_induction_on generalizing w with
  | _ n ih =>
      by_cases hall : ∀ p ∈ w.calls, p.isFinal = true
      · exact ⟨w, .refl w, rfl, hall⟩
      · simp only [not_forall] at hall
        obtain ⟨p, hmem, hp⟩ := hall
        obtain ⟨call, hget⟩ := List.getElem?_of_mem hmem
        obtain ⟨w₁, p', hone, hcalls, hfinal⟩ := h.settle_call hget
        have hcount := Threads.countP_turn (fun p => !p.isFinal)
          (show Threads.Turn w.calls call p p' _ from .mk hget)
        have hp' : p.isFinal = false := by simpa using hp
        rw [← hcalls] at hcount
        simp only [hfinal, hp', Bool.not_true, Bool.not_false, Bool.toNat_true, Bool.toNat_false]
          at hcount
        obtain ⟨w₂, hmore, hlength, hall⟩ := ih _ (by omega) (h.trans hone) rfl
        refine ⟨w₂, hone.trans hmore, ?_, hall⟩
        rw [hlength, hcalls, List.length_set]

/-! ## Draining -/

/-- What the worker has left to do. -/
def ReleaseDispatcher.backlog (d : ReleaseDispatcher) : Nat :=
  2 * d.queue.length +
    match d.thread with
    | .sending _ | .leaving => 1
    | _ => 0

/-- The worker waits for a command, or it has exited. -/
def ReleaseDispatcher.Quiet (d : ReleaseDispatcher) : Prop :=
  d.queue = [] ∧ d.thread.current = none ∨ d.thread.isFinished = true

theorem work_backlog (d : ReleaseDispatcher) :
    (d.Quiet ∧ d.thread.left = d.thread.isFinished) ∨
      ∃ d', work d true = some d' ∧ d'.backlog < d.backlog ∧
        d'.stopEnqueued = d.stopEnqueued ∧ d'.health = d.health := by
  unfold work
  cases hthread : d.thread with
  | receiving =>
      cases hqueue : d.queue with
      | nil => exact .inl ⟨.inl ⟨hqueue, by rw [hthread]; rfl⟩, rfl⟩
      | cons command rest =>
          refine .inr ?_
          cases command <;> refine ⟨_, rfl, ?_, rfl, rfl⟩ <;>
            simp only [ReleaseDispatcher.backlog, hthread, hqueue, List.length_cons] <;> omega
  | sending command =>
      refine .inr ⟨_, rfl, ?_, rfl, rfl⟩
      simp only [ReleaseDispatcher.backlog, hthread]
      omega
  | leaving =>
      refine .inr ⟨_, rfl, ?_, rfl, rfl⟩
      simp only [ReleaseDispatcher.backlog, hthread]
      omega
  | finished => exact .inl ⟨.inr (by rw [hthread]; rfl), rfl⟩

/-- The worker empties its queue. -/
theorem Reachable.drain (h : Reachable w) :
    ∃ w', Continues w w' ∧ w'.calls = w.calls ∧
      w'.dispatcher.stopEnqueued = w.dispatcher.stopEnqueued ∧
      w'.dispatcher.health = w.dispatcher.health ∧ w'.dispatcher.Quiet ∧
      w'.dispatcher.thread.left = w'.dispatcher.thread.isFinished := by
  generalize hn : w.dispatcher.backlog = n
  induction n using Nat.strong_induction_on generalizing w with
  | _ n ih =>
      rcases work_backlog w.dispatcher with ⟨hquiet, hleft⟩ | ⟨d', hwork, hless, hstop, hhealth⟩
      · exact ⟨w, .refl w, rfl, rfl, rfl, hquiet, hleft⟩
      · have hstep : step w (.work true) = some { w with dispatcher := d' } := by
          unfold step
          rw [if_neg (by rw [h.sound.1]; exact Bool.false_ne_true)]
          simp only [hwork, Option.map_some]
        obtain ⟨w', hmore, hcalls, hstop', hhealth', hquiet⟩ :=
          ih _ (hn ▸ hless) (h.trans (.one hstep)) rfl
        exact ⟨w', (Continues.one hstep).trans hmore, hcalls, hstop'.trans hstop,
          hhealth'.trans hhealth, hquiet⟩

/-! ## One more call -/

/-- A call takes its turns while nobody else does. -/
inductive Solo (d : ReleaseDispatcher) (p : Point) : ReleaseDispatcher → Point → Prop where
  | refl : Solo d p d p
  | snoc {d₁ p₁ d' p'} (go : Bool) (h : Solo d p d₁ p₁)
      (hturn : turn d₁ go p₁ = some (.next d' p')) : Solo d p d' p'

theorem Solo.continues (h : Solo d p d' p') (hfatal : w.fatal = none) (hd : w.dispatcher = d)
    (hp : w.calls[call]? = some p) :
    Continues w { w with dispatcher := d', calls := w.calls.set call p' } := by
  have hlt := (List.getElem?_eq_some_iff.mp hp).1
  induction h with
  | refl =>
      have hset : w.calls.set call p = w.calls := by
        rw [← (List.getElem?_eq_some_iff.mp hp).2, List.set_getElem_self]
      rw [hset, ← hd]
      exact .refl w
  | @snoc d₁ p₁ d' p' go _ hturn ih =>
      refine ih.trans ?_
      have hstep := step_turn (w := { w with dispatcher := d₁, calls := w.calls.set call p₁ })
        hfatal (List.getElem?_set_self hlt) hturn
      rw [List.set_set] at hstep
      exact .one hstep

/-- From the clients to the first look at the worker. -/
theorem Solo.wait {d₀ : ReleaseDispatcher} {p₀ : Point} (h : Solo d₀ p₀ d .waitForClients)
    (hclients : d.activeClients = 0) (hlocked : d.locked = false)
    (hworker : d.health ≠ .stopped → d.stopEnqueued = false →
      d.worker = true ∧ d.thread.isFinished = false) :
    ∃ d', Solo d₀ p₀ d' .checkStopped ∧ (d'.health = .stopped ∨ d'.stopEnqueued = true) := by
  have hlock : Solo d₀ p₀ d .lockToStop := by
    refine .snoc true h ?_
    simp only [turn, hclients, if_true]
  have hcheck : Solo d₀ p₀ { d with locked := true } .stopCheck := by
    refine .snoc true hlock ?_
    simp only [turn, tryLock, hlocked, Bool.false_eq_true, if_false]
  by_cases hstop : d.health = .stopped ∨ d.stopEnqueued = true
  · have hunlock : Solo d₀ p₀ { d with locked := true } .stopUnlock := by
      refine .snoc true hcheck ?_
      simp only [turn, if_pos hstop]
    exact ⟨{ d with locked := false }, .snoc true hunlock rfl, hstop⟩
  · obtain ⟨hhealth, hunsent⟩ := not_or.mp hstop
    obtain ⟨hworker, hthread⟩ := hworker hhealth (by simpa using hunsent)
    refine ⟨{ d with queue := d.queue ++ [.stop], stopEnqueued := true, locked := false }, ?_,
      .inr rfl⟩
    have hsend : Solo d₀ p₀ { d with locked := true } .stopSend := by
      refine .snoc true hcheck ?_
      simp only [turn, if_neg hstop, hworker, Bool.true_eq_false, if_false]
    have hmark : Solo d₀ p₀ { d with locked := true, queue := d.queue ++ [.stop] } .stopMark := by
      refine .snoc true hsend ?_
      rcases send_cases .stop { d with locked := true } with ⟨-, heq⟩ | ⟨hfinished, -⟩
      · simp only [turn, heq]
      · exact absurd (hthread.symm.trans hfinished) Bool.false_ne_true
    exact .snoc true (.snoc true hmark rfl) rfl

theorem Solo.begin (hclients : d.activeClients = 0) (hlocked : d.locked = false)
    (hfailed : d.health ≠ .failed)
    (hworker : d.health ≠ .stopped → d.stopEnqueued = false →
      d.worker = true ∧ d.thread.isFinished = false) :
    ∃ d', Solo d .closeAndJoin d' .checkStopped ∧
      (d'.health = .stopped ∨ d'.stopEnqueued = true) := by
  have hbegin : Solo d .closeAndJoin d .beginClose := .snoc true .refl rfl
  cases hhealth : d.health with
  | failed => exact absurd hhealth hfailed
  | healthy =>
      have hswap : Solo d .closeAndJoin d .swapHealth := by
        refine .snoc true hbegin ?_
        simp only [turn, hhealth]
      have hwait : Solo d .closeAndJoin { d with health := .stopping } .waitForClients := by
        refine .snoc true hswap ?_
        simp only [turn, hhealth, if_true]
      exact hwait.wait hclients hlocked fun _ => hworker (by simp [hhealth])
  | stopping =>
      have hwait : Solo d .closeAndJoin d .waitForClients := by
        refine .snoc true hbegin ?_
        simp only [turn, hhealth]
      exact hwait.wait hclients hlocked hworker
  | stopped =>
      have hwait : Solo d .closeAndJoin d .waitForClients := by
        refine .snoc true hbegin ?_
        simp only [turn, hhealth]
      exact hwait.wait hclients hlocked hworker

/-- From there to the end, when the worker has exited. -/
theorem Solo.finish (h : d.health = .stopped ∨ (d.health = .stopping ∧ d.locked = false ∧
    d.worker = true ∧ d.joining = false ∧ d.thread.isFinished = true)) :
    ∃ d', Solo d .checkStopped d' (.closed (.ok ())) := by
  rcases h with hstopped | ⟨hhealth, hlocked, hworker, hjoining, hthread⟩
  · refine ⟨d, .snoc true .refl ?_⟩
    simp only [turn, hstopped, if_true]
  · have hcheck : Solo d .checkStopped d .checkFailed := by
      refine .snoc true .refl ?_
      simp only [turn, hhealth, reduceCtorEq, if_false]
    have hlock : Solo d .checkStopped d .lockToJoin := by
      refine .snoc true hcheck ?_
      simp only [turn, hhealth, reduceCtorEq, if_false]
    have hinspect : Solo d .checkStopped { d with locked := true } .inspect := by
      refine .snoc true hlock ?_
      simp only [turn, tryLock, hlocked, Bool.false_eq_true, if_false]
    have htake : Solo d .checkStopped { d with locked := true, joining := true, worker := false }
        (.joinUnlock true) := by
      refine .snoc true hinspect ?_
      simp only [turn, hworker, hjoining, hthread, and_self, if_true]
    exact ⟨_, .snoc true (.snoc true (.snoc true htake rfl) rfl) rfl⟩

/-- A call that is no client, holds no lock, and has neither the handle nor a `Stop`
to say. -/
def Stage.rests (s : Stage) : Bool := !(s.counted || s.holdsLock || s.joins || s == .marking)

/-- A dispatcher whose calls rest. -/
theorem Sound.resting {stages : List Stage} (h : Sound d stages)
    (hrests : ∀ s ∈ stages, s.rests = true) :
    d.activeClients = 0 ∧ d.locked = false ∧
      (d.health ≠ .stopped → d.joining = false ∧ d.worker = true) ∧
      d.queue.countP WorkerCommand.isStop + d.thread.left.toNat = d.stopEnqueued.toNat := by
  have none (f : Stage → Bool) (hf : ∀ s, f s = true → s.rests = false) :
      stages.countP f = 0 := by
    refine List.countP_eq_zero.mpr fun s hs hfs => ?_
    exact Bool.false_ne_true ((hf s hfs).symm.trans (hrests s hs))
  have hclients := h.clients
  have hlock := h.lock
  have hjoiners := h.joiners
  have hstops := h.stops
  rw [none Stage.counted (fun s hs => by simp [Stage.rests, hs])] at hclients
  rw [none Stage.holdsLock (fun s hs => by simp [Stage.rests, hs])] at hlock
  rw [none Stage.joins (fun s hs => by simp [Stage.rests, hs])] at hjoiners
  rw [none (· == .marking) (fun s hs => by simp [Stage.rests, hs])] at hstops
  refine ⟨hclients, ?_, fun hhealth => ?_, hstops⟩
  · cases hlocked : d.locked with
    | false => rfl
    | true => rw [hlocked] at hlock; cases hlock
  · rw [decide_eq_false hhealth] at hjoiners
    have hjoining : d.joining = false := by
      cases hd : d.joining with
      | false => rfl
      | true => rw [hd] at hjoiners; cases hjoiners
    refine ⟨hjoining, ?_⟩
    rw [h.handle, hjoining]
    rfl

theorem Point.isFinal_rests (hp : p.isFinal = true) : p.stage.rests = true := by
  cases p with
  | returned result => rfl
  | closed result =>
      cases result with
      | error error => cases error <;> rfl
      | ok u => rfl
  | _ => cases hp

/-- **One more call can finish**, whatever the others have left behind. -/
theorem Reachable.closable (h : Reachable w) :
    ∃ w', Continues w w' ∧ w'.calls[w.calls.length]? = some (.closed (.ok ())) := by
  obtain ⟨w₁, hsettle, hlength, hfinal⟩ := h.settle
  have hreach₁ : Reachable w₁ := h.trans hsettle
  obtain ⟨hfatal₁, hsound₁⟩ := hreach₁.sound
  have hrests₁ : ∀ s ∈ w₁.stages, s.rests = true := by
    intro s hs
    obtain ⟨p, hp, rfl⟩ := List.mem_map.mp hs
    exact Point.isFinal_rests (hfinal p hp)
  obtain ⟨hclients, hlocked, hhandle, hstops⟩ := hsound₁.resting hrests₁
  -- The call starts and comes past the clients.
  have hcall : step w₁ .closeAndJoin = some (w₁.call .closeAndJoin) := by
    unfold step
    rw [if_neg (by rw [hfatal₁]; exact Bool.false_ne_true)]
  have hworker : w₁.dispatcher.health ≠ .stopped → w₁.dispatcher.stopEnqueued = false →
      w₁.dispatcher.worker = true ∧ w₁.dispatcher.thread.isFinished = false := by
    intro hhealth hunsent
    refine ⟨(hhandle hhealth).2, ?_⟩
    rw [hunsent] at hstops
    cases hthread : w₁.dispatcher.thread.isFinished with
    | false => rfl
    | true =>
        rw [Worker.left_of_finished hthread] at hstops
        simp at hstops
  obtain ⟨d, hbegin, hstopped⟩ := Solo.begin hclients hlocked hsound₁.failed hworker
  have hget : (w₁.call .closeAndJoin).calls[w.calls.length]? = some .closeAndJoin := by
    show (w₁.calls ++ [Point.closeAndJoin])[w.calls.length]? = _
    rw [← hlength, List.getElem?_append_right (Nat.le_refl _), Nat.sub_self]
    rfl
  have hmore := hbegin.continues (w := w₁.call .closeAndJoin) hfatal₁ rfl hget
  generalize hw₂ : { w₁.call .closeAndJoin with
    dispatcher := d
    calls := (w₁.call .closeAndJoin).calls.set w.calls.length .checkStopped } = w₂ at hmore
  have hto₂ : Continues w w₂ := hsettle.trans ((Continues.one hcall).trans hmore)
  have hstopped₂ : w₂.dispatcher.health = .stopped ∨ w₂.dispatcher.stopEnqueued = true := by
    rw [← hw₂]
    exact hstopped
  have hget₂ : w₂.calls[w.calls.length]? = some .checkStopped := by
    rw [← hw₂]
    exact List.getElem?_set_self (List.getElem?_eq_some_iff.mp hget).1
  have hrests₂ : ∀ p ∈ w₂.calls, p.stage.rests = true := by
    rw [← hw₂]
    intro p hp
    rcases List.mem_or_eq_of_mem_set hp with hp | rfl
    · rcases List.mem_append.mp hp with hp | hp
      · exact Point.isFinal_rests (hfinal p hp)
      · rw [List.mem_singleton.mp hp]
        rfl
    · rfl
  -- The worker exits, and the call takes the handle.
  have hreach₂ : Reachable w₂ := h.trans hto₂
  obtain ⟨w₃, hdrain, hcalls, hstop₃, hhealth₃, hquiet, hleft⟩ := hreach₂.drain
  have hreach₃ : Reachable w₃ := hreach₂.trans hdrain
  obtain ⟨hfatal₃, hsound₃⟩ := hreach₃.sound
  rw [← hcalls] at hget₂ hrests₂
  rw [← hstop₃, ← hhealth₃] at hstopped₂
  have hready : w₃.dispatcher.health = .stopped ∨ (w₃.dispatcher.health = .stopping ∧
      w₃.dispatcher.locked = false ∧ w₃.dispatcher.worker = true ∧
      w₃.dispatcher.joining = false ∧ w₃.dispatcher.thread.isFinished = true) := by
    obtain ⟨-, hlocked, hhandle, hstops⟩ := hsound₃.resting fun s hs => by
      obtain ⟨p, hp, rfl⟩ := List.mem_map.mp hs
      exact hrests₂ p hp
    have hmem : Stage.passed ∈ w₃.stages :=
      List.mem_map_of_mem (f := Point.stage) (List.mem_of_getElem? hget₂)
    cases hhealth : w₃.dispatcher.health with
    | stopped => exact .inl rfl
    | healthy => exact absurd hhealth (hsound₃.informed _ hmem rfl)
    | failed => exact absurd hhealth hsound₃.failed
    | stopping =>
        have hne : w₃.dispatcher.health ≠ .stopped := by rw [hhealth]; nofun
        have hstop := hstopped₂.resolve_left hne
        refine .inr ⟨rfl, hlocked, (hhandle hne).2, (hhandle hne).1, ?_⟩
        rcases hquiet with ⟨hqueue, -⟩ | hfinished
        · rw [hqueue, hstop] at hstops
          rw [← hleft]
          cases hd : w₃.dispatcher.thread.left with
          | true => rfl
          | false => rw [hd] at hstops; cases hstops
        · exact hfinished
  obtain ⟨d', hfinish⟩ := Solo.finish hready
  refine ⟨_, (hto₂.trans hdrain).trans (hfinish.continues hfatal₃ rfl hget₂), ?_⟩
  exact List.getElem?_set_self (List.getElem?_eq_some_iff.mp hget₂).1

/-! ## Every call -/

/-- The health of a dispatcher over one visit. -/
theorem Run.health (h : Run visits w) {v : Visit World Input} (hv : v ∈ visits) :
    v.post.dispatcher.health = v.pre.dispatcher.health ∨
      (v.pre.dispatcher.health = .healthy ∧ v.post.dispatcher.health = .stopping) ∨
      (v.pre.dispatcher.health = .stopping ∧ v.post.dispatcher.health = .stopped) := by
  obtain ⟨before, after, -, hbefore, hst, -⟩ := Path.mem_split h hv
  exact (Run.steps hbefore hst).health (Run.sound hbefore).2

/-- **Closing can be tried again.**  `Stop` is sent at most once, and the worker is
taken and joined at most once.  The health goes from healthy to stopping to stopped,
and it is stopped after the join.  A call returns without an error only then; one that
timed out leaves the dispatcher stopping, with the handle in its place or with another
closer, or stopped by another; and one more call can finish.  No call finds the worker
unavailable, and one with an overflowing deadline changes nothing. -/
theorem close_again (h : Run visits w) :
    (visits.filterMap enqueuedIn).countP WorkerCommand.isStop ≤ 1 ∧
      visits.countP takesIn ≤ 1 ∧ visits.countP joinsIn ≤ 1 ∧
      (∀ v ∈ visits, v.post.dispatcher.health = v.pre.dispatcher.health ∨
        (v.pre.dispatcher.health = .healthy ∧ v.post.dispatcher.health = .stopping) ∨
        (v.pre.dispatcher.health = .stopping ∧ v.post.dispatcher.health = .stopped)) ∧
      (w.dispatcher.health = .stopped → visits.countP joinsIn = 1) ∧
      (.closed (.ok ()) ∈ w.calls → w.dispatcher.health = .stopped) ∧
      (∀ error, .closed (.error error) ∈ w.calls → error.isTimeout = true →
        (w.dispatcher.health = .stopping ∧
            (w.dispatcher.worker = true ∨ ∃ p ∈ w.calls, p.stage.joins = true)) ∨
          w.dispatcher.health = .stopped) ∧
      (∃ w', Continues w w' ∧ w'.calls[w.calls.length]? = some (.closed (.ok ()))) ∧
      .closed (.error .workerUnavailable) ∉ w.calls ∧
      ∀ call, w.calls[call]? = some (.closed (.error .deadlineTooLarge)) →
        ∀ v ∈ visits, turnOf call v = true → v.post.dispatcher = v.pre.dispatcher := by
  obtain ⟨htakes, hjoins, hstopped⟩ := h.one_join
  have hreach : Reachable w := ⟨visits, h⟩
  exact ⟨h.one_stop, htakes, hjoins.trans htakes, fun v hv => h.health hv, hstopped, h.closed_ok,
    fun error hp htimeout => h.timed_out hp htimeout, hreach.closable, h.available,
    fun call => (h.overflow call).2⟩

theorem close_again_sample : ∃ visits w, Run visits w ∧ w.dispatcher.health = .stopped ∧
    (visits.filterMap enqueuedIn).countP WorkerCommand.isStop ≤ 1 := by
  have hsome : (perform sampleInputs).isSome = true := rfl
  exact ⟨_, _, perform_run hsome, rfl, (close_again (perform_run hsome)).1⟩

/-- Two calls close the dispatcher.  The second one looks at the worker before it has
exited, and the first one is done while the second one sleeps. -/
def twoClosers : List Input :=
  .closeAndJoin :: .closeAndJoin :: List.replicate 10 (Input.turn 0 true) ++
    List.replicate 11 (Input.turn 1 true) ++ .work true :: .work true ::
    List.replicate 6 (Input.turn 0 true)

/-- The second call times out, and the dispatcher is not stopping any more. -/
theorem timeout_when_stopped : ∃ visits v w, Run (visits ++ [v]) w ∧
    v.input = .turn 1 false ∧ v.pre.calls[1]? = some .drainSleep ∧
    w.calls[1]? = some (.closed (.error .drainTimeout)) ∧
    w.dispatcher.health = .stopped ∧ w.dispatcher.worker = false ∧
    ∀ p ∈ w.calls, p.stage.joins = false := by
  have hsome : (perform twoClosers).isSome = true := rfl
  have hstep : (step ((perform twoClosers).get hsome).2 (.turn 1 false)).isSome = true := rfl
  refine ⟨_, ⟨_, .turn 1 false,
    (step ((perform twoClosers).get hsome).2 (.turn 1 false)).get hstep⟩,
    _, Path.snoc (perform_run hsome) (Option.some_get hstep).symm, rfl, rfl, rfl, rfl, rfl, ?_⟩
  intro p hp
  have hcalls : ((step ((perform twoClosers).get hsome).2 (.turn 1 false)).get hstep).calls =
      [.closed (.ok ()), .closed (.error .drainTimeout)] := rfl
  rw [hcalls] at hp
  rcases List.mem_cons.mp hp with rfl | hp
  · rfl
  · rw [List.mem_singleton.mp hp]
    rfl

end VideoInterop.Dispatcher
