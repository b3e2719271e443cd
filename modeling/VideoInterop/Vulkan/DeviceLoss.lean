import VideoInterop.Vulkan.LaneOutcomes

/-!
# Lost devices

The lanes of a device share its context.  A lane that is told of a lost device by a
submission, by a fence or by a query pool marks the context, and the context shows the
mark to every lane from then on.

All operations of a lane mark the context before they return, but for one.  A reset asks
the release fence whether the lane is idle, and passes a lost device on as a text like
that of any other error.  `losses_heeded_iff` is about runs of any number of lanes: the
losses of a run are heeded exactly when no reset of it hears of one.
-/

namespace VideoInterop.Vulkan

/-! ## Losses and marks -/

/-- The events in which a lane is told of a lost device. -/
def LaneEvent.isLoss : LaneEvent → Bool
  | submit _ _ _ _ (some .deviceLost) | fenceStatus _ (.error .deviceLost)
  | queryPoolResults _ (.error .deviceLost) => true
  | _ => false

/-- Does the event mark the device as lost? -/
def LaneEvent.isMark : LaneEvent → Bool
  | markDeviceLost => true
  | _ => false

/-- In a history, latest first, a mark follows every loss. -/
def Marked (events : List LaneEvent) : Prop :=
  ∀ after e before, events = after ++ e :: before → e.isLoss = true →
    ∃ mark ∈ after, mark.isMark = true

theorem heard_of_isLoss {e : LaneEvent} (he : e.isLoss = true) : e.heard = true := by
  unfold LaneEvent.isLoss at he
  split at he
  · rfl
  · rfl
  · rfl
  · cases he

theorem heard_of_isMark {e : LaneEvent} (he : e.isMark = true) : e.heard = true := by
  cases e with
  | markDeviceLost => rfl
  | _ => cases he

theorem marked_nil : Marked [] := by
  rintro after e before h
  exact absurd h.symm (List.append_ne_nil_of_right_ne_nil _ (List.cons_ne_nil _ _))

/-- The latest event is no loss, and it is a mark unless the events before it are marked. -/
theorem marked_cons {e : LaneEvent} {events : List LaneEvent} :
    Marked (e :: events) ↔ e.isLoss = false ∧ (e.isMark = true ∨ Marked events) := by
  constructor
  · intro h
    have hloss : e.isLoss = false := by
      by_contra hloss
      obtain ⟨mark, hmark, -⟩ := h [] e events rfl (by simpa using hloss)
      cases hmark
    refine ⟨hloss, or_iff_not_imp_left.mpr fun hnomark after e' before heq he' => ?_⟩
    obtain ⟨mark, hmem, hmark⟩ := h (e :: after) e' before (by rw [heq, List.cons_append]) he'
    rcases List.mem_cons.mp hmem with rfl | hmem
    · exact absurd hmark hnomark
    · exact ⟨mark, hmem, hmark⟩
  · rintro ⟨hloss, hmark⟩ after e' before heq he'
    cases after with
    | nil =>
        cases heq
        rw [hloss] at he'
        cases he'
    | cons e'' after =>
        obtain ⟨rfl, rfl⟩ := List.cons.inj heq
        rcases hmark with hmark | hmarked
        · exact ⟨e, List.mem_cons_self, hmark⟩
        · obtain ⟨mark, hmem, hmark⟩ := hmarked after e' before rfl he'
          exact ⟨mark, List.mem_cons_of_mem _ hmem, hmark⟩

/-- Events in which a lane hears nothing do not matter. -/
theorem marked_filter_heard {events : List LaneEvent} :
    Marked (events.filter (·.heard)) ↔ Marked events := by
  induction events with
  | nil => rfl
  | cons e events ih =>
      cases he : e.heard with
      | true => rw [List.filter_cons_of_pos he, marked_cons, marked_cons, ih]
      | false =>
          have hloss : e.isLoss = false := by
            by_contra hloss
            simp [heard_of_isLoss (by simpa using hloss)] at he
          have hmark : e.isMark = false := by
            by_contra hmark
            simp [heard_of_isMark (by simpa using hmark)] at he
          rw [List.filter_cons_of_neg (by simp [he]), ih, marked_cons, hloss, hmark]
          simp

/-! ## Operations -/

/-- A method of a lane, or its drop. -/
inductive LaneOp where
  | call (call : LaneCall)
  | drop (status : Except VkError Bool)

/-- A lane after an operation. -/
def LaneOp.perform : LaneOp → LaneState → LaneState
  | call c, w => c.perform w
  | drop status, w => ((Vulkan.drop status).exec w).2

/-- The lane an operation leaves, with the events of this operation alone. -/
def LaneOp.run (op : LaneOp) (lane : ImportedImageSync) : LaneState := op.perform ⟨lane, []⟩

/-- The reset that asks the fence of a lost device. -/
def LaneOp.isLostReset (op : LaneOp) (lane : ImportedImageSync) : Prop :=
  op = .call (.resetForReuse (.error .deviceLost)) ∧ lane.releaseSubmitted = true

theorem hear_heard {c : LaneCore} {e : LaneEvent} : (c.hear e).heard = e :: c.heard := rfl

theorem acquired_heard {c : LaneCore} {imported : ImportView} :
    (c.acquired imported).heard = c.heard := rfl

theorem chosen_heard {c : LaneCore} {plan : AcquirePlan} {r : AcquireResults} :
    (c.chosen plan r).heard = c.heard := rfl

theorem collected_heard {c : LaneCore} : c.collected.heard = c.heard := rfl

section
variable {c c' : LaneCore}

theorem AcquireOutcome.marked {imported : ImportView} {r : AcquireResults}
    (h : AcquireOutcome imported r c c') (hc : c.heard = []) : Marked c'.heard := by
  cases h with
  | refused => exact hc ▸ marked_nil
  | unsubmitted => exact chosen_heard.trans hc ▸ marked_nil
  | submitted =>
      rw [acquired_heard, hear_heard, chosen_heard, hc, marked_cons]
      exact ⟨rfl, .inr marked_nil⟩
  | lost =>
      rw [hear_heard, marked_cons]
      exact ⟨rfl, .inl rfl⟩
  | @failed _ _ _ e _ he =>
      rw [hear_heard, chosen_heard, hc, marked_cons]
      refine ⟨?_, .inr marked_nil⟩
      cases e with
      | deviceLost => exact absurd rfl he
      | _ => rfl

theorem PollOutcome.marked {side : Side} {status : Except VkError Bool}
    (h : PollOutcome side status c c') (hc : c.heard = []) : Marked c'.heard := by
  cases h with
  | answered hstatus =>
      rw [hear_heard, hc, marked_cons]
      refine ⟨?_, .inr marked_nil⟩
      cases status with
      | ok signaled => rfl
      | error e => cases e with
        | deviceLost => exact absurd rfl hstatus
        | _ => rfl
  | lost =>
      rw [hear_heard, marked_cons]
      exact ⟨rfl, .inl rfl⟩

theorem ReleaseOutcome.marked {imported : ImportView} {r : ReleaseResults}
    (h : ReleaseOutcome imported r c c') (hc : c.heard = []) : Marked c'.heard := by
  cases h with
  | refused => exact hc ▸ marked_nil
  | submitted =>
      show Marked (c.hear _).heard
      rw [hear_heard, hc, marked_cons]
      exact ⟨rfl, .inr marked_nil⟩
  | lost =>
      rw [hear_heard, marked_cons]
      exact ⟨rfl, .inl rfl⟩
  | @failed _ e _ he =>
      rw [hear_heard, hc, marked_cons]
      refine ⟨?_, .inr marked_nil⟩
      cases e with
      | deviceLost => exact absurd rfl he
      | _ => rfl

theorem CompleteOutcome.marked {r : CompleteResults} (h : CompleteOutcome r c c')
    (hc : c.heard = []) : Marked c'.heard := by
  have hpolled : Marked (c.hear (.fenceStatus .release (.ok true))).collected.heard := by
    rw [collected_heard, hear_heard, hc, marked_cons]
    exact ⟨rfl, .inr marked_nil⟩
  cases h with
  | unasked => exact hc ▸ marked_nil
  | unsignaled _ _ hpoll => exact hpoll.marked hc
  | unread => exact hpolled
  | read =>
      show Marked (LaneCore.hear _ _).heard
      rw [hear_heard, marked_cons]
      exact ⟨rfl, .inr hpolled⟩
  | @readFailed _ e _ _ _ _ _ _ he =>
      rw [hear_heard, marked_cons]
      refine ⟨?_, .inr hpolled⟩
      cases e with
      | deviceLost => exact absurd rfl he
      | _ => rfl
  | readLost =>
      rw [hear_heard, marked_cons]
      exact ⟨rfl, .inl rfl⟩

/-- A reset marks nothing. -/
theorem ResetOutcome.marked {status : Except VkError Bool} (h : ResetOutcome status c c')
    (hc : c.heard = []) :
    Marked c'.heard ↔ ¬(status = .error .deviceLost ∧ c.releaseSubmitted = true) := by
  have hpolled : Marked (c.hear (.fenceStatus .release status)).heard ↔
      status ≠ .error .deviceLost := by
    rw [hear_heard, hc, marked_cons]
    cases status with
    | ok signaled => simp [LaneEvent.isLoss, marked_nil]
    | error e => cases e <;> simp [LaneEvent.isLoss, marked_nil]
  cases h with
  | refused hunreleased => simp [hc, marked_nil, hunreleased]
  | polled hreleased => simp [hpolled, hreleased]
  | cleared hreleased hstatus =>
      have hcleared : (c.hear (.fenceStatus .release status)).cleared.heard =
        (c.hear (.fenceStatus .release status)).heard := rfl
      simp [hcleared, hpolled, hreleased]

theorem DropOutcome.marked {status : Except VkError Bool} (h : DropOutcome status c c')
    (hc : c.heard = []) : Marked c'.heard := by
  cases h with
  | idle => exact hc ▸ marked_nil
  | finished hstatus =>
      show Marked (c.hear (.fenceStatus .release status)).heard
      rw [hear_heard, hc, hstatus, marked_cons]
      exact ⟨rfl, .inr marked_nil⟩
  | unreleased | unfinished =>
      rw [hear_heard, marked_cons]
      exact ⟨rfl, .inl rfl⟩

end

/-- **An operation marks the losses it hears of, unless it is the reset that asks the
fence of a lost device.** -/
theorem LaneOp.marked_run_iff {op : LaneOp} {lane : ImportedImageSync} :
    Marked (op.run lane).events ↔ ¬op.isLostReset lane := by
  have hcore : (LaneState.mk lane []).core.heard = [] := rfl
  rw [← marked_filter_heard]
  cases op with
  | drop status =>
      have hmarked := (drop_outcome status ⟨lane, []⟩).marked hcore
      exact iff_of_true hmarked fun h => nomatch h.1
  | call call =>
      have houtcome := call.outcome ⟨lane, []⟩
      show Marked (call.perform ⟨lane, []⟩).core.heard ↔ _
      have hunheard (h : (call.perform ⟨lane, []⟩).core = (LaneState.mk lane []).core) :
          Marked (call.perform ⟨lane, []⟩).core.heard := by
        rw [h, hcore]
        exact marked_nil
      cases call with
      | submitAcquire imported fd r =>
          exact iff_of_true (houtcome.marked hcore) fun h => nomatch h.1
      | sourceReleaseComplete status =>
          refine iff_of_true ?_ fun h => nomatch h.1
          rcases houtcome with heq | houtcome
          · exact hunheard heq
          · exact houtcome.marked hcore
      | ganeshWaitAccepted semaphore | ganeshWaitRejected semaphore =>
          exact iff_of_true (hunheard houtcome) fun h => nomatch h.1
      | submitRelease imported r =>
          exact iff_of_true (houtcome.marked hcore) fun h => nomatch h.1
      | releaseComplete r =>
          exact iff_of_true (houtcome.marked hcore) fun h => nomatch h.1
      | takeTiming =>
          refine iff_of_true ?_ fun h => nomatch h.1
          exact (congrArg LaneCore.heard houtcome).trans hcore ▸ marked_nil
      | resetForReuse status =>
          refine (houtcome.marked hcore).trans (not_congr (and_congr ?_ Iff.rfl))
          simp

/-! ## The lanes of a device -/

/-- The context of a device.  A mark is permanent: it shows at once, and nothing else
that happens to the context takes it back. -/
structure VulkanDeviceContext (σ : Type) where
  /-- `mark_device_lost`. -/
  markDeviceLost : σ → σ
  /-- `is_device_lost`. -/
  isDeviceLost : σ → Bool
  /-- Whatever else happens to the context. -/
  Other : Type
  /-- What that changes. -/
  perform : Other → σ → σ
  /-- A mark shows. -/
  visible : ∀ s, isDeviceLost (markDeviceLost s) = true
  /-- A mark stays. -/
  permanent : ∀ o s, isDeviceLost s = true → isDeviceLost (perform o s) = true

variable {σ ι : Type}

/-- The context after events, latest first. -/
def VulkanDeviceContext.mark (D : VulkanDeviceContext σ) (events : List LaneEvent) (s : σ) : σ :=
  events.foldr (fun e s => if e.isMark then D.markDeviceLost s else s) s

theorem VulkanDeviceContext.isDeviceLost_mark (D : VulkanDeviceContext σ)
    {events : List LaneEvent} {s : σ}
    (h : D.isDeviceLost s = true ∨ ∃ e ∈ events, e.isMark = true) :
    D.isDeviceLost (D.mark events s) = true := by
  induction events with
  | nil =>
      rcases h with h | ⟨e, hmem, -⟩
      · exact h
      · cases hmem
  | cons e events ih =>
      show D.isDeviceLost (if e.isMark then D.markDeviceLost (D.mark events s)
        else D.mark events s) = true
      cases he : e.isMark with
      | true => exact D.visible _
      | false =>
          refine ih (h.imp_right ?_)
          rintro ⟨e', hmem, hmark⟩
          rcases List.mem_cons.mp hmem with rfl | hmem
          · rw [he] at hmark
            cases hmark
          · exact ⟨e', hmem, hmark⟩

/-- The lanes of a device and its context. -/
structure Fleet (ι σ : Type) where
  /-- The lanes there are. -/
  lanes : ι → Option ImportedImageSync
  /-- The context they share. -/
  device : σ

/-- What `is_device_lost` of every lane returns. -/
def Fleet.isDeviceLost (D : VulkanDeviceContext σ) (f : Fleet ι σ) : Bool := D.isDeviceLost f.device

/-- A lane is made, a lane does something, or something else happens on the device. -/
inductive FleetStep (D : VulkanDeviceContext σ) (ι : Type) where
  | new (i : ι) (family : QueueFamily) (query : Option TimestampQuery)
  | lane (i : ι) (op : LaneOp)
  | other (o : D.Other)

section
variable {D : VulkanDeviceContext σ}

/-- The events of a step. -/
def Fleet.events (f : Fleet ι σ) : FleetStep D ι → List LaneEvent
  | .lane i op => match f.lanes i with
      | none => []
      | some lane => (op.run lane).events
  | _ => []

/-- The step is a reset that asks the fence of a lost device. -/
def Fleet.ResetsLost (f : Fleet ι σ) (step : FleetStep D ι) : Prop :=
  ∃ i op lane, step = .lane i op ∧ f.lanes i = some lane ∧ op.isLostReset lane

theorem Fleet.marked_events_iff {f : Fleet ι σ} {step : FleetStep D ι} :
    Marked (f.events step) ↔ ¬f.ResetsLost step := by
  cases step with
  | new i family query => exact iff_of_true marked_nil fun ⟨_, _, _, h, _⟩ => nomatch h
  | other o => exact iff_of_true marked_nil fun ⟨_, _, _, h, _⟩ => nomatch h
  | lane i op =>
      cases hlane : f.lanes i with
      | none =>
          have hevents : f.events (.lane i op : FleetStep D ι) = [] := by
            simp only [Fleet.events, hlane]
          rw [hevents]
          refine iff_of_true marked_nil ?_
          rintro ⟨j, op', lane, hstep, hlane', -⟩
          cases hstep
          rw [hlane] at hlane'
          cases hlane'
      | some lane =>
          have hevents : f.events (.lane i op : FleetStep D ι) = (op.run lane).events := by
            simp only [Fleet.events, hlane]
          rw [hevents, LaneOp.marked_run_iff, not_iff_not]
          refine ⟨fun h => ⟨i, op, lane, rfl, hlane, h⟩, ?_⟩
          rintro ⟨j, op', lane', hstep, hlane', h⟩
          cases hstep
          rw [hlane] at hlane'
          cases hlane'
          exact h

variable [DecidableEq ι]

/-- A dropped lane is gone. -/
def LaneOp.left (op : LaneOp) (lane : ImportedImageSync) : Option ImportedImageSync :=
  match op with
  | call _ => some (op.run lane).lane
  | drop _ => none

/-- The lanes and their device after one step of either. -/
def Fleet.step (f : Fleet ι σ) : FleetStep D ι → Fleet ι σ
  | .new i family query =>
      if (f.lanes i).isSome then f
      else { f with lanes := Function.update f.lanes i (some (LaneState.new family query).lane) }
  | .lane i op =>
      match f.lanes i with
      | none => f
      | some lane =>
          { lanes := Function.update f.lanes i (op.left lane),
            device := D.mark (op.run lane).events f.device }
  | .other o => { f with device := D.perform o f.device }

/-- After one step after the other. -/
def Fleet.run (f : Fleet ι σ) (steps : List (FleetStep D ι)) : Fleet ι σ := steps.foldl Fleet.step f

/-- A step that hears of a lost device marks it before it returns, and all lanes see
the loss whatever comes after it. -/
def Fleet.Heeds (f : Fleet ι σ) (step : FleetStep D ι) (rest : List (FleetStep D ι)) : Prop :=
  (∃ e ∈ f.events step, e.isLoss = true) →
    Marked (f.events step) ∧
      ∀ later, later <+: rest → ((f.step step).run later).isDeviceLost D = true

/-- The losses of a run are heeded. -/
def Fleet.LossesHeeded (f : Fleet ι σ) (steps : List (FleetStep D ι)) : Prop :=
  ∀ before step rest, steps = before ++ step :: rest → (f.run before).Heeds step rest

/-- A lost device stays lost. -/
theorem Fleet.isDeviceLost_step {f : Fleet ι σ} {step : FleetStep D ι}
    (h : f.isDeviceLost D = true) : (f.step step).isDeviceLost D = true := by
  cases step with
  | new i family query =>
      show D.isDeviceLost (if (f.lanes i).isSome then f else _).device = true
      split
      · exact h
      · exact h
  | other o => exact D.permanent o _ h
  | lane i op =>
      show D.isDeviceLost (match f.lanes i with | none => f | some lane => _).device = true
      split
      · exact h
      · exact D.isDeviceLost_mark (.inl h)

theorem Fleet.isDeviceLost_run {steps : List (FleetStep D ι)} {f : Fleet ι σ}
    (h : f.isDeviceLost D = true) : (f.run steps).isDeviceLost D = true := by
  induction steps generalizing f with
  | nil => exact h
  | cons step steps ih => exact ih (isDeviceLost_step h)

/-- A mark shows. -/
theorem Fleet.isDeviceLost_of_mark {f : Fleet ι σ} {step : FleetStep D ι}
    (h : ∃ e ∈ f.events step, e.isMark = true) : (f.step step).isDeviceLost D = true := by
  cases step with
  | new i family query =>
      obtain ⟨e, he, -⟩ := h
      cases he
  | other o =>
      obtain ⟨e, he, -⟩ := h
      cases he
  | lane i op =>
      cases hlane : f.lanes i with
      | none =>
          simp only [Fleet.events, hlane] at h
          obtain ⟨e, he, -⟩ := h
          cases he
      | some lane =>
          simp only [Fleet.events, hlane] at h
          simp only [Fleet.isDeviceLost, Fleet.step, hlane]
          exact D.isDeviceLost_mark (.inr h)

theorem exists_mark {events : List LaneEvent} (h : Marked events)
    (hloss : ∃ e ∈ events, e.isLoss = true) : ∃ e ∈ events, e.isMark = true := by
  obtain ⟨e, hmem, he⟩ := hloss
  obtain ⟨after, before, rfl⟩ := List.append_of_mem hmem
  obtain ⟨mark, hmark, hm⟩ := h after e before rfl he
  exact ⟨mark, List.mem_append_left _ hmark, hm⟩

/-- A history without a mark for every loss has a loss. -/
theorem exists_loss {events : List LaneEvent} (h : ¬Marked events) :
    ∃ e ∈ events, e.isLoss = true := by
  by_contra hno
  refine h fun after e before heq he => absurd ⟨e, ?_, he⟩ hno
  rw [heq]
  exact List.mem_append_right _ List.mem_cons_self

theorem Fleet.heeds_iff {f : Fleet ι σ} {step : FleetStep D ι} {rest : List (FleetStep D ι)} :
    f.Heeds step rest ↔ ¬f.ResetsLost step := by
  rw [← marked_events_iff]
  constructor
  · intro h
    by_contra hmarked
    exact hmarked (h (exists_loss hmarked)).1
  · intro hmarked hloss
    have hlost := isDeviceLost_of_mark (exists_mark hmarked hloss)
    exact ⟨hmarked, fun later _ => isDeviceLost_run hlost⟩

/-- **The losses of a run are heeded exactly when no reset of the run asks the fence of a
lost device.** -/
theorem losses_heeded_iff (D : VulkanDeviceContext σ) (f : Fleet ι σ)
    (steps : List (FleetStep D ι)) :
    f.LossesHeeded steps ↔
      ∀ before step rest, steps = before ++ step :: rest → ¬(f.run before).ResetsLost step :=
  forall₄_congr fun _ _ _ _ => Fleet.heeds_iff

end

/-! ## A loss that is not heeded -/

/-- A context that is a flag. -/
def flagContext : VulkanDeviceContext Bool where
  markDeviceLost _ := true
  isDeviceLost s := s
  Other := Empty
  perform o _ := nomatch o
  visible _ := rfl
  permanent o _ _ := nomatch o

/-- An image that is sampled as it is. -/
def sampleLossImage : ImportView := ⟨⟨1⟩, false, ⟨1⟩, .directImage ⟨1⟩⟩

/-- A lane that is acquired and released, and reset on a lost device. -/
def sampleLossSteps : List (FleetStep flagContext Unit) := [
  .new () 0 none,
  .lane () (.call (.submitAcquire sampleLossImage none
    ⟨⟨.ok 1, none, none⟩, .ok 1, none, false, none, .success, none⟩)),
  .lane () (.call (.ganeshWaitAccepted 1)),
  .lane () (.call (.submitRelease sampleLossImage ⟨none, none, .success, none⟩)),
  .lane () (.call (.resetForReuse (.error .deviceLost)))]

/-- **A reset passes a lost device on without a mark.** -/
theorem reset_swallows_loss :
    ¬Fleet.LossesHeeded (⟨fun _ => none, false⟩ : Fleet Unit Bool) sampleLossSteps ∧
      ((⟨fun _ => none, false⟩ : Fleet Unit Bool).run sampleLossSteps).isDeviceLost flagContext =
        false := by
  refine ⟨fun h => ?_, rfl⟩
  have hreset := h (sampleLossSteps.take 4) (.lane () (.call (.resetForReuse (.error .deviceLost))))
    [] rfl ⟨.fenceStatus .release (.error .deviceLost), List.mem_cons_self, rfl⟩
  exact absurd (hreset.2 [] (List.prefix_refl [])) Bool.false_ne_true

end VideoInterop.Vulkan
