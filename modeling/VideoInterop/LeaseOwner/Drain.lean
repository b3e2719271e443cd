import VideoInterop.LeaseOwner.Histories

/-!
# Drains

An owner that drains admits no new work and stops with the callback that takes
its last lease or reservation.  Every handler that can take one tests for the
end itself; here the tests are put together: no living owner has drained, and an
owner that stops has, with an answer to every waiter.
-/

namespace VideoInterop.LeaseOwner

variable {env : Env} {s s' : State}

/-! ## An owner that drained does not live -/

/-- Draining, with nothing left. -/
def State.Drained (s : State) : Prop :=
  s.mode = .draining ∧ s.leases.size = 0 ∧ s.issueReservations.size = 0

/-- With no lease there is no job either, so the two tests of the source agree. -/
theorem Coupled.drained?_iff (h : Coupled s) :
    drained? s = true ↔ s.leases.size = 0 ∧ s.issueReservations.size = 0 := by
  constructor
  · intro hd
    simp only [drained?, Bool.and_eq_true, beq_iff_eq] at hd
    exact ⟨hd.1.1.1, hd.1.1.2⟩
  · rintro ⟨hleases, hreservations⟩
    have hnone := FMap.size_eq_zero_iff_fetch.mp hleases
    have hjob : s.releaseJob = none := by
      cases hj : s.releaseJob with
      | none => rfl
      | some job =>
          obtain ⟨entry, hentry, -⟩ :=
            ((h.mirrors.mirror _).releasing _).mp (serialQueue_running hj)
          rw [hnone] at hentry
          cases hentry
    have hqueue : s.releaseQueue = [] := by
      have hline := h.busy (by simp [serialQueue, hjob])
      simpa [serialQueue] using hline
    simp [drained?, hleases, hreservations, hjob, hqueue]

theorem not_drained_of_lease {token : Ref} {entry : Entry}
    (h : s.leases.fetch token = some entry) : ¬s.Drained := fun hd =>
  absurd hd.2.1 (Nat.ne_of_gt (FMap.size_pos_of_some h))

/-- A callback that ends in `stop_or_continue_after_release`. -/
theorem stopOrContinue_not_drained (h : Coupled s')
    (hlive : (stopOrContinueAfterRelease env s).live? = some s') : ¬s'.Drained := by
  intro hd
  obtain rfl := stopOrContinue_live hlive
  rw [stopOrContinueAfterRelease, if_pos ⟨hd.1, h.drained?_iff.mpr hd.2⟩] at hlive
  cases hlive

theorem dispatch_lease (hdispatch : dispatchNextRelease env s = some s') {token : Ref}
    {entry : Entry} (hentry : s.leases.fetch token = some entry) :
    ∃ entry', s'.leases.fetch token = some entry' := by
  rcases dispatchNextRelease_cases hdispatch with
    ⟨rfl, -⟩ | ⟨job, rest, entry', -, -, -, rfl⟩
  · exact ⟨entry, hentry⟩
  · rw [FMap.fetch_put]
    split
    · exact ⟨_, rfl⟩
    · exact ⟨entry, hentry⟩

theorem releaseEntry_lease {token : Ref} {entry : Entry} {isRetry : Bool} {waiter : Option Waiter}
    (hrelease : releaseEntry env token entry s isRetry waiter = some s') :
    ∃ entry', s'.leases.fetch token = some entry' := by
  obtain ⟨sent, -, heq⟩ := releaseEntry_eq env token entry s isRetry waiter
  rw [heq] at hrelease
  have hqueued : (s.enqueueRelease env token entry isRetry waiter sent).leases.fetch token =
      some (entry.queued env.generation) := by simp [State.enqueueRelease]
  exact dispatch_lease hrelease hqueued

theorem removeHolder_lease {token holder : Ref} {entry entry₀ : Entry}
    (hlive : (removeHolder env token holder entry s).live? = some s')
    (hentry : s.leases.fetch token = some entry₀) :
    ∃ entry', s'.leases.fetch token = some entry' := by
  unfold removeHolder at hlive
  split at hlive
  · simp only at hlive
    split at hlive
    · split at hlive
      · next s₁ hs₁ =>
          obtain rfl := stopOrContinue_live hlive
          exact releaseEntry_lease hs₁
      · cases hlive
    · cases hlive
      exact ⟨_, FMap.fetch_put_self ..⟩
  · cases hlive
    exact ⟨entry₀, hentry⟩

theorem firstReleaseFailure_lease {x : Ref × ReleaseError}
    (h : firstReleaseFailure env s = some x) :
    ∃ token entry, s.leases.fetch token = some entry := by
  obtain ⟨token, hmem, -⟩ := List.exists_of_findSome?_eq_some h
  obtain ⟨entry, hentry⟩ := FMap.mem_keys.mp (env.mem_order.mp hmem)
  exact ⟨token, entry, hentry⟩

/-- **No callback leaves a living owner drained.** -/
theorem Transition.not_drained {event : Event} {out : Outcome} (hs : ¬s.Drained) (h' : Coupled s')
    (ht : Transition env s event out) (hlive : out.live? = some s') : ¬s'.Drained := by
  have lease {token : Ref} : (∃ entry, s'.leases.fetch token = some entry) → ¬s'.Drained :=
    fun ⟨_, h⟩ => not_drained_of_lease h
  cases ht with
  | raise => cases hlive
  | quiet _ keys _ _ hout =>
      rw [hlive] at hout
      cases hout
      exact hs
  | reserve _ _ =>
      cases hlive
      intro hd
      have hsize := hd.2.2
      simp only [State.reserved] at hsize
      exact absurd hsize (Nat.ne_of_gt (FMap.size_pos_of_some (FMap.fetch_put_self ..)))
  | issue _ _ _ _ hout =>
      rw [hlive] at hout
      cases hout
      exact lease ⟨_, FMap.fetch_put_self ..⟩
  | reject _ _ _ _ hrelease =>
      cases hlive
      exact lease (releaseEntry_lease hrelease)
  | corrupt _ => cases hlive
  | cancelReservation => exact stopOrContinue_not_drained h' hlive
  | reservationDown _ _ _ => exact stopOrContinue_not_drained h' hlive
  | confirmIssue _ _ _ _ =>
      cases hlive
      exact lease ⟨_, FMap.fetch_put_self ..⟩
  | cancelIssue _ _ _ _ _ _ => exact stopOrContinue_not_drained h' hlive
  | issueDown _ _ _ _ _ _ _ => exact stopOrContinue_not_drained h' hlive
  | retain _ _ _ _ _ _ hout =>
      rw [hlive] at hout
      cases hout
      exact lease ⟨_, FMap.fetch_put_self ..⟩
  | confirmRetain _ _ _ _ =>
      cases hlive
      exact lease ⟨_, FMap.fetch_put_self ..⟩
  | cancelRetain hentry _ _ _ => exact lease (removeHolder_lease hlive hentry)
  | retainDown _ _ hentry _ => exact lease (removeHolder_lease hlive hentry)
  | staleDown _ _ _ =>
      cases hlive
      exact hs
  | retire _ hentry _ _ _ hput =>
      obtain ⟨tombstones, order, counters, rfl⟩ := putReleaseTombstone_frame hput
      exact lease (removeHolder_lease hlive hentry)
  | lateRelease _ =>
      cases hlive
      exact hs
  | drainFailed hfailed =>
      cases hlive
      obtain ⟨waiters, monitors, sent, -, heq⟩ := replyDrainWaiter_frame _ _ (s.waiting env _ _)
      rw [heq]
      obtain ⟨token, entry, hentry⟩ := firstReleaseFailure_lease hfailed
      exact not_drained_of_lease hentry
  | drainDone _ _ => cases hlive
  | drainWaits _ hbusy =>
      cases hlive
      exact fun hd => hbusy hd.2
  | dropWaiter _ =>
      cases hlive
      obtain ⟨waiters, monitors, sent, -, heq⟩ := removeDrainWaiter_frame _ s
      rw [heq]
      exact hs
  | finish _ _ _ _ _ _ _ _ _ => exact stopOrContinue_not_drained h' hlive
  | executorDown _ _ _ _ _ _ => exact stopOrContinue_not_drained h' hlive
  | executorDownLost _ _ _ _ =>
      cases hlive
      exact hs
  | executorDownIdle _ _ _ hdispatch =>
      cases hlive
      rcases dispatchNextRelease_cases hdispatch with
        ⟨rfl, -⟩ | ⟨job, rest, entry, -, -, -, rfl⟩
      · exact hs
      · exact lease ⟨_, FMap.fetch_put_self ..⟩
  | retryCall _ _ hrelease =>
      cases hlive
      exact lease (releaseEntry_lease hrelease)
  | retryRefused _ =>
      cases hlive
      obtain ⟨sent, -, heq⟩ := cancelRetryTimer_eq _ s
      rw [heq]
      exact hs
  | retryTimer _ _ _ _ hrelease =>
      cases hlive
      exact lease (releaseEntry_lease hrelease)
  | staleTimer _ _ _ =>
      cases hlive
      exact hs
  | close =>
      unfold handleClose at hlive
      simp only at hlive
      split at hlive
      · cases hlive
      · next hnot =>
          cases hlive
          exact fun hd => hnot (h'.drained?_iff.mpr hd.2)
  | producerDown _ =>
      unfold beginProducerDrain at hlive
      simp only at hlive
      split at hlive
      · cases hlive
      · next hnot =>
          cases hlive
          exact fun hd => hnot (h'.drained?_iff.mpr hd.2)

/-! ## What a stopping callback sends -/

/-- The result of a drain that a signal sends to a request. -/
def Signal.drainResult (requestRef : Ref) : Signal → Option (Pid × Except DrainError Unit)
  | .reply replyTo ref (.drained result) => if ref = requestRef then some
    (replyTo, result) else none
  | _ => none

/-- The two last notifications. -/
def Signal.farewell : Signal → Option (Pid × Notification)
  | .notify process (.finalStats stats) => some (process, .finalStats stats)
  | .notify process .drained => some (process, .drained)
  | _ => none

/-- Signals that are no part of the end of a drain. -/
def Calm (sent : List Signal) : Prop :=
  ∀ signal ∈ sent, (∀ requestRef, signal.drainResult requestRef = none) ∧ signal.farewell = none

theorem Calm.nil : Calm [] := by simp [Calm]

theorem Calm.append {a b : List Signal} (h : Calm a) (h' : Calm b) : Calm (a ++ b) := by
  intro signal hs
  exact (List.mem_append.mp hs).elim (h signal) (h' signal)

theorem Calm.drainResult {a : List Signal} (h : Calm a) (requestRef : Ref) :
    a.filterMap (Signal.drainResult requestRef) = [] :=
  List.filterMap_eq_nil_iff.mpr fun signal hs => (h signal hs).1 requestRef

theorem Calm.farewell {a : List Signal} (h : Calm a) : a.filterMap Signal.farewell = [] :=
  List.filterMap_eq_nil_iff.mpr fun signal hs => (h signal hs).2

/-- What one waiter is sent. -/
def waiterSignals (waiters : FMap Ref (Pid × Ref)) (result : Except DrainError Unit)
    (requestRef : Ref) : List Signal :=
  match waiters.fetch requestRef with
  | some (replyTo, monitorRef) =>
      [.reply replyTo requestRef (.drained result), .demonitor monitorRef]
  | none => []

theorem replyDrainWaiter_sent (requestRef : Ref) (result : Except DrainError Unit) (s : State) :
    (replyDrainWaiter requestRef result s).sent =
        s.sent ++ waiterSignals s.drainWaiters result requestRef ∧
      (replyDrainWaiter requestRef result s).drainWaiters = s.drainWaiters.delete requestRef := by
  unfold replyDrainWaiter waiterSignals
  cases h : s.drainWaiters.fetch requestRef with
  | none => exact ⟨by simp, (FMap.delete_of_none h).symm⟩
  | some waiter => simp [removeDrainWaiter, State.send, h]

/-- Every waiter of the list is answered once. -/
theorem foldl_replyDrainWaiter_sent (result : Except DrainError Unit) :
    ∀ (refs : List Ref) (s : State), refs.Nodup →
      (refs.foldl (fun s requestRef => replyDrainWaiter requestRef result s) s).sent =
        s.sent ++ refs.flatMap (waiterSignals s.drainWaiters result)
  | [], s, _ => by simp
  | requestRef :: refs, s, hnodup => by
      obtain ⟨hfirst, hrest⟩ := List.nodup_cons.mp hnodup
      obtain ⟨hsent, hwaiters⟩ := replyDrainWaiter_sent requestRef result s
      have hsame : refs.flatMap (waiterSignals (s.drainWaiters.delete requestRef) result) =
          refs.flatMap (waiterSignals s.drainWaiters result) := by
        refine List.flatMap_congr fun other hother => ?_
        have hne : other ≠ requestRef := fun heq => hfirst (heq ▸ hother)
        simp [waiterSignals, hne]
      rw [List.foldl_cons, foldl_replyDrainWaiter_sent result refs _ hrest, hsent, hwaiters, hsame,
        List.flatMap_cons, List.append_assoc]

/-- The last two messages to the notified process. -/
def farewells (process : Option Pid) (stats : Stats) : List Signal :=
  match process with
  | none => []
  | some process => [.notify process (.finalStats stats), .notify process .drained]

theorem completeDrain_sent (env : Env) (s : State) : ∃ stats,
    (completeDrain env s).sent =
      s.sent ++ ([.stopReleaseExecutor s.releaseExecutor] ++
        (env.order s.drainWaiters.keys).flatMap (waiterSignals s.drainWaiters (.ok ())) ++
        farewells s.notify stats) := by
  have hnodup : (env.order s.drainWaiters.keys).Nodup :=
    (env.order_perm _).nodup_iff.mpr s.drainWaiters.keys_nodup
  have hsent :=
    foldl_replyDrainWaiter_sent (.ok ()) _ (s.send (.stopReleaseExecutor s.releaseExecutor))
    hnodup
  obtain ⟨waiters, monitors, sent, -, heq⟩ := replyAllDrainWaiters_frame env (.ok ())
    (s.send (.stopReleaseExecutor s.releaseExecutor))
  have hreplied : sent = s.sent ++ [.stopReleaseExecutor s.releaseExecutor] ++
      (env.order s.drainWaiters.keys).flatMap (waiterSignals s.drainWaiters (.ok ())) := by
    have := congrArg State.sent heq
    exact this.symm.trans hsent
  refine ⟨statsSnapshot env (replyAllDrainWaiters env (.ok ())
    (s.send (.stopReleaseExecutor s.releaseExecutor))), ?_⟩
  unfold completeDrain
  simp only [heq]
  cases hnotify : s.notify with
  | none => simp [notify, State.send, hnotify, hreplied, farewells]
  | some process => simp [notify, State.send, hnotify, hreplied, farewells]

theorem completeDrain_frame (env : Env) (s : State) : ∃ waiters monitors sent,
    completeDrain env s =
      { s with drainWaiters := waiters, drainMonitors := monitors, sent := sent } := by
  obtain ⟨waiters, monitors, sent, -, heq⟩ := replyAllDrainWaiters_frame env (.ok ())
    (s.send (.stopReleaseExecutor s.releaseExecutor))
  unfold completeDrain
  simp only [heq]
  obtain ⟨sent', -, heq'⟩ := notify_frame (.finalStats (statsSnapshot env _))
    { s.send (.stopReleaseExecutor s.releaseExecutor) with
      drainWaiters := waiters, drainMonitors := monitors, sent := sent }
  obtain ⟨sent'', -, heq''⟩ := notify_frame .drained (notify (.finalStats (statsSnapshot env _))
    { s.send (.stopReleaseExecutor s.releaseExecutor) with
      drainWaiters := waiters, drainMonitors := monitors, sent := sent })
  exact ⟨waiters, monitors, sent'', heq''.trans (by rw [heq']; rfl)⟩

/-- Each waiter is answered once, by `:ok`. -/
theorem completeDrain_results (env : Env) {s : State} (hsent : Calm s.sent) (requestRef : Ref) :
    (completeDrain env s).sent.filterMap (Signal.drainResult requestRef) =
      ((s.drainWaiters.fetch requestRef).map fun waiter => (waiter.1, .ok ())).toList := by
  obtain ⟨stats, heq⟩ := completeDrain_sent env s
  have hnodup : (env.order s.drainWaiters.keys).Nodup :=
    (env.order_perm _).nodup_iff.mpr s.drainWaiters.keys_nodup
  have hlast : (farewells s.notify stats).filterMap (Signal.drainResult requestRef) = [] := by
    cases s.notify <;> simp [farewells, Signal.drainResult]
  have hkeys : ∀ refs : List Ref, refs.Nodup →
      (refs.flatMap (waiterSignals s.drainWaiters (.ok ()))).filterMap
          (Signal.drainResult requestRef) =
        if requestRef ∈ refs then
          ((s.drainWaiters.fetch requestRef).map fun waiter => (waiter.1, .ok ())).toList
        else [] := by
    intro refs hrefs
    induction refs with
    | nil => rfl
    | cons ref refs ih =>
        obtain ⟨hfirst, hrest⟩ := List.nodup_cons.mp hrefs
        rw [List.flatMap_cons, List.filterMap_append, ih hrest]
        by_cases heq : requestRef = ref
        · subst heq
          rw [if_neg hfirst, if_pos List.mem_cons_self, List.append_nil]
          cases h : s.drainWaiters.fetch requestRef with
          | none => simp [waiterSignals, h]
          | some waiter => simp [waiterSignals, h, Signal.drainResult]
        · have hnone : (waiterSignals s.drainWaiters (.ok ()) ref).filterMap
              (Signal.drainResult requestRef) = [] := by
            unfold waiterSignals
            split
            · simp [Signal.drainResult, Ne.symm heq]
            · rfl
          simp [hnone, heq]
  rw [heq, List.filterMap_append, List.filterMap_append, List.filterMap_append, hlast,
    hkeys _ hnodup, hsent.drainResult]
  by_cases hmem : requestRef ∈ env.order s.drainWaiters.keys
  · simp [hmem, Signal.drainResult]
  · have hnone := FMap.fetch_eq_none.mpr (fun h => hmem (env.mem_order.mpr h))
    simp [hmem, hnone, Signal.drainResult]

/-- The two last notifications are sent once, in order. -/
theorem completeDrain_farewell (env : Env) {s : State} (hsent : Calm s.sent) : ∃ stats,
    (completeDrain env s).sent.filterMap Signal.farewell =
      s.notify.toList.flatMap fun process =>
        [(process, .finalStats stats), (process, .drained)] := by
  obtain ⟨stats, heq⟩ := completeDrain_sent env s
  have hwaiters : ((env.order s.drainWaiters.keys).flatMap
      (waiterSignals s.drainWaiters (.ok ()))).filterMap Signal.farewell = [] := by
    rw [List.filterMap_eq_nil_iff]
    intro signal hs
    obtain ⟨ref, -, hs⟩ := List.mem_flatMap.mp hs
    unfold waiterSignals at hs
    split at hs
    · simp only [List.mem_cons, List.not_mem_nil, or_false] at hs
      rcases hs with rfl | rfl <;> rfl
    · cases hs
  refine ⟨stats, ?_⟩
  rw [heq, List.filterMap_append, List.filterMap_append, List.filterMap_append, hwaiters,
    hsent.farewell]
  cases s.notify <;> simp [farewells, Signal.farewell]

/-! ## An owner that stops has drained -/

/-- The waiters once an event is taken in. -/
def registeredWaiters (env : Env) (event : Event) (waiters : FMap Ref (Pid × Ref)) :
    FMap Ref (Pid × Ref) :=
  match event with
  | .info (.drain replyTo requestRef) => waiters.put requestRef (replyTo, env.monitorRef)
  | _ => waiters

/-- The state `complete_drain` starts from. -/
structure Completes (env : Env) (s : State) (event : Event) (s₁ : State) : Prop where
  /-- Nothing is left. -/
  drained : s₁.Drained
  /-- No job runs or waits. -/
  idle : s₁.releaseJob = none ∧ s₁.releaseQueue = []
  /-- Nobody was answered yet. -/
  waiters : s₁.drainWaiters = registeredWaiters env event s.drainWaiters
  /-- The same process is notified. -/
  notify : s₁.notify = s.notify
  /-- Nothing was said of the drain yet. -/
  calm : Calm s.sent → Calm s₁.sent

theorem drained?_idle (h : drained? s = true) :
    s.leases.size = 0 ∧ s.issueReservations.size = 0 ∧ s.releaseJob = none ∧
      s.releaseQueue = [] := by
  simp only [drained?, Bool.and_eq_true, beq_iff_eq, Option.isNone_iff_eq_none,
    List.isEmpty_iff] at h
  exact ⟨h.1.1.1, h.1.1.2, h.1.2, h.2⟩

theorem live_not_stopped {out : Outcome} {reason : StopReason} {s₁ s₂ : State}
    (hlive : out.live? = some s₁) (hstop : out.stopped? = some (reason, s₂)) : False := by
  cases out <;> simp [Outcome.live?, Outcome.stopped?] at hlive hstop

/-- The stop of `stop_or_continue_after_release`. -/
theorem stopOrContinue_stopped {reason : StopReason}
    (h : (stopOrContinueAfterRelease env s).stopped? = some (reason, s')) :
    s.mode = .draining ∧ drained? s = true ∧ s' = completeDrain env s := by
  unfold stopOrContinueAfterRelease at h
  split at h
  · next hd =>
      cases h
      exact ⟨hd.1, hd.2, rfl⟩
  · cases h

/-- A callback that leaves a lease does not stop. -/
theorem stopOrContinue_lease {reason : StopReason} {token : Ref}
    (hlease : ∃ entry, s.leases.fetch token = some entry)
    (h : (stopOrContinueAfterRelease env s).stopped? = some (reason, s')) : False := by
  obtain ⟨hmode, hd, -⟩ := stopOrContinue_stopped h
  obtain ⟨entry, hentry⟩ := hlease
  exact not_drained_of_lease hentry ⟨hmode, (drained?_idle hd).1, (drained?_idle hd).2.1⟩

theorem removeHolder_stopped {token holder : Ref} {entry : Entry} {reason : StopReason}
    (h : (removeHolder env token holder entry s).stopped? = some (reason, s')) : False := by
  unfold removeHolder at h
  split at h
  · simp only at h
    split at h
    · split at h
      · next s₁ hs₁ => exact stopOrContinue_lease (releaseEntry_lease hs₁) h
      · cases h
    · cases h
  · cases h

theorem Completes.of_stopOrContinue {event : Event} {reason : StopReason} {s₁ : State}
    (h : (stopOrContinueAfterRelease env s₁).stopped? = some (reason, s'))
    (hwaiters : s₁.drainWaiters = registeredWaiters env event s.drainWaiters)
    (hnotify : s₁.notify = s.notify) (hcalm : Calm s.sent → Calm s₁.sent) :
    s' = completeDrain env s₁ ∧ Completes env s event s₁ := by
  obtain ⟨hmode, hd, rfl⟩ := stopOrContinue_stopped h
  obtain ⟨hleases, hreservations, hidle⟩ := drained?_idle hd
  exact ⟨rfl, ⟨hmode, hleases, hreservations⟩, hidle, hwaiters, hnotify, hcalm⟩

/-- A demonitor is no part of the end of a drain. -/
theorem Calm.demonitor (monitorRef : Ref) : Calm [.demonitor monitorRef] := by
  intro signal hs
  obtain rfl := List.mem_singleton.mp hs
  exact ⟨fun _ => rfl, rfl⟩

theorem removeIssueReservation_calm {requestRef : Ref} {demonitor : Bool} (h : Calm s.sent) :
    Calm (removeIssueReservation requestRef s demonitor).sent := by
  unfold removeIssueReservation
  split
  · cases demonitor with
    | false => exact h
    | true => exact h.append (.demonitor _)
  · exact h

theorem removeIssueReservation_frame (requestRef : Ref) (s : State) (demonitor : Bool) :
    (removeIssueReservation requestRef s demonitor).drainWaiters = s.drainWaiters ∧
      (removeIssueReservation requestRef s demonitor).notify = s.notify := by
  unfold removeIssueReservation
  split
  · cases demonitor <;> exact ⟨rfl, rfl⟩
  · exact ⟨rfl, rfl⟩

theorem finishOk_calm {token : Ref} {entry : Entry} {job : RunningJob} {value : Term}
    {durationNs : Nat} (h : Calm s.sent) :
    Calm (finishOk token entry job value durationNs s).sent := by
  have one {a : List Signal} {signal : Signal} (h : Calm a)
      (hdrain : ∀ requestRef, signal.drainResult requestRef = none)
      (hfarewell : signal.farewell = none) : Calm (a ++ [signal]) :=
    h.append fun x hx => by
      obtain rfl := List.mem_singleton.mp hx
      exact ⟨hdrain, hfarewell⟩
  have hnotified (t : State) (ht : Calm t.sent) :
      Calm (notify (.leaseReleased token entry.metadata value durationNs job.attempt) t).sent := by
    unfold notify
    split
    · exact ht
    · exact one ht (fun _ => rfl) rfl
  have hreplied (t : State) (ht : Calm t.sent) :
      Calm (replyReleaseWaiter job.waiter (.ok ()) token t).sent := by
    unfold replyReleaseWaiter
    match job.waiter with
    | none => exact ht
    | some (.retry caller) => exact one ht (fun _ => rfl) rfl
    | some (.issue replyTo requestRef rejectReason) => exact one ht (fun _ => rfl) rfl
  unfold finishOk
  simp only
  split
  · exact hreplied _ (hnotified _ h)
  · exact hreplied _ h

/-- **A normal stop completes a drain.** -/
theorem Transition.completes {event : Event} {out : Outcome} (h : Coupled s)
    (ht : Transition env s event out) (hstop : out.stopped? = some (.normal, s')) :
    ∃ s₁, s' = completeDrain env s₁ ∧ Completes env s event s₁ := by
  cases ht with
  | raise => cases hstop
  | quiet _ _ _ _ hout => exact (live_not_stopped hout hstop).elim
  | reserve _ _ => cases hstop
  | issue _ _ _ _ hout => exact (live_not_stopped hout hstop).elim
  | reject _ _ _ _ _ => cases hstop
  | corrupt _ => cases hstop
  | cancelReservation =>
      obtain ⟨hwaiters, hnotify⟩ := removeIssueReservation_frame _ s true
      exact ⟨_, Completes.of_stopOrContinue hstop hwaiters hnotify removeIssueReservation_calm⟩
  | reservationDown _ _ _ =>
      obtain ⟨hwaiters, hnotify⟩ := removeIssueReservation_frame _ (s.unwatched _) false
      exact ⟨_, Completes.of_stopOrContinue hstop hwaiters hnotify
        (removeIssueReservation_calm (s := s.unwatched _))⟩
  | confirmIssue _ _ _ _ => cases hstop
  | cancelIssue _ _ _ _ _ hrelease =>
      exact (stopOrContinue_lease (releaseEntry_lease hrelease) hstop).elim
  | issueDown _ _ _ _ _ _ hrelease =>
      exact (stopOrContinue_lease (releaseEntry_lease hrelease) hstop).elim
  | retain _ _ _ _ _ _ hout => exact (live_not_stopped hout hstop).elim
  | confirmRetain _ _ _ _ => cases hstop
  | cancelRetain _ _ _ _ => exact (removeHolder_stopped hstop).elim
  | retainDown _ _ _ _ => exact (removeHolder_stopped hstop).elim
  | staleDown _ _ _ => cases hstop
  | retire _ _ _ _ _ _ => exact (removeHolder_stopped hstop).elim
  | lateRelease _ => cases hstop
  | drainFailed _ => cases hstop
  | @drainDone replyTo requestRef hleases hreservations =>
      cases hstop
      have hd := drained?_idle (h.drained?_iff.mpr ⟨hleases, hreservations⟩)
      refine ⟨_, rfl, ⟨rfl, hleases, hreservations⟩, hd.2.2, rfl, rfl, fun hcalm => ?_⟩
      refine hcalm.append fun signal hs => ?_
      obtain rfl := List.mem_singleton.mp hs
      exact ⟨fun _ => rfl, rfl⟩
  | drainWaits _ _ => cases hstop
  | dropWaiter _ => cases hstop
  | @finish _ executor token generation result durationNs job entry s₁ s₂ hevent _ _ _ _ _ _ hsettle
      hdispatch =>
      subst hevent
      rcases settle_cases hsettle with ⟨value, -, rfl⟩ | ⟨reason, -, rfl⟩
      · rcases dispatchNextRelease_cases hdispatch with
          ⟨rfl, -⟩ | ⟨job', rest, entry', -, -, -, rfl⟩
        · obtain ⟨counters, hcount⟩ := countFinished_eq job durationNs s
          obtain ⟨sent, -, heq⟩ := finishOk_eq token entry job value durationNs
            (countFinished job durationNs s)
          refine ⟨_, Completes.of_stopOrContinue hstop ?_ ?_ fun hcalm => finishOk_calm ?_⟩
          · rw [heq, hcount]
            rfl
          · rw [heq, hcount]
          · rw [hcount]
            exact hcalm
        · obtain ⟨-, hd, -⟩ := stopOrContinue_stopped hstop
          exact absurd (drained?_idle hd).2.2.1 (by simp)
      · obtain ⟨counters, timers, waiters, monitors, sent, -, heq⟩ :=
          finishError_eq env _ _ _ reason
          (countFinished _ _ s)
        rw [heq] at hdispatch
        exact (stopOrContinue_lease (dispatch_lease hdispatch (FMap.fetch_put_self ..)) hstop).elim
  | executorDown _ _ _ _ _ hdispatch =>
      obtain ⟨counters, timers, waiters, monitors, sent, -, heq⟩ := finishError_eq env _ _ _
        (.releaseExecutorDown _) (countFinished _ _ _)
      rw [heq] at hdispatch
      exact (stopOrContinue_lease (dispatch_lease hdispatch (FMap.fetch_put_self ..)) hstop).elim
  | executorDownLost _ _ _ _ => cases hstop
  | executorDownIdle _ _ _ _ => cases hstop
  | retryCall _ _ _ => cases hstop
  | retryRefused _ => cases hstop
  | retryTimer _ _ _ _ _ => cases hstop
  | staleTimer _ _ _ => cases hstop
  | close =>
      unfold handleClose at hstop
      simp only at hstop
      split at hstop
      · next hd =>
          cases hstop
          obtain ⟨hleases, hreservations, hidle⟩ := drained?_idle hd
          exact ⟨_, rfl, ⟨rfl, hleases, hreservations⟩, hidle, rfl, rfl, id⟩
      · cases hstop
  | producerDown hevent =>
      unfold beginProducerDrain at hstop
      simp only at hstop
      split at hstop
      · next hd =>
          cases hstop
          obtain ⟨hleases, hreservations, hidle⟩ := drained?_idle hd
          refine ⟨_, rfl, ⟨rfl, hleases, hreservations⟩, hidle, ?_, rfl, id⟩
          rcases hevent with rfl | ⟨reason, rfl⟩ <;> rfl
      · cases hstop

/-! ## Runs -/

variable {o o' : Owner} {visits : List (Visit Owner Input)}

theorem Owner.Reachable.not_drained (h : Owner.Reachable o) : ¬o.state.Drained := by
  have hinv : o.Sound ∧ ¬o.state.Drained := by
    refine h.invariant (P := fun o => o.Sound ∧ ¬o.state.Drained) (fun o hinit => ?_)
      fun o i o' hs hst => ?_
    · refine ⟨hinit.sound, fun hd => ?_⟩
      have hmode := hd.1
      rw [hinit.blank.mode] at hmode
      cases hmode
    · have hs' := (hs.1.step hst).1
      exact ⟨hs', (outcome_transition o.state i).not_drained (s := { o.state with sent := [] }) hs.2
        hs'.coupled hst.live⟩
  exact hinv.2

/-- A path of a draining owner winds its ledger down. -/
theorem draining_path (hs : o.Sound) (h : Path Owner.Step o visits o')
    (hmode : o.state.mode = .draining) :
    Ledger.Winds o.state.ledger (visits.filterMap acceptedIn) o'.state.ledger := by
  obtain ⟨-, deeds, htrace, hc⟩ := hs.path h
  rw [← hc.accepted]
  exact Ledger.draining_trace htrace hmode

/-- An accepted commit and its reservation. -/
theorem acceptedBy_reservation {env : Env} {s : State} {event : Event} {token : Ref}
    {backendToken : Term} (h : acceptedBy env s event = some (token, backendToken)) :
    ∃ replyTo requestRef r, s.issueReservations.fetch requestRef = some r ∧ r.replyTo = replyTo ∧
      event = .info (.commitIssue r.reservation backendToken replyTo requestRef) := by
  unfold acceptedBy at h
  split at h
  · next reservation bt replyTo requestRef =>
      split at h
      · next r hr =>
          split at h
          · next hmatch =>
              cases h
              exact ⟨replyTo, requestRef, r, hr, hmatch.2, by rw [hmatch.1]⟩
          · cases h
      · cases h
  · cases h

/-- **A drain is exact.**  No owner idles drained.  One that stops normally has
drained, has no job, and answers each waiter and the notified process once.
Once draining, it drains for good, and leases come from old reservations. -/
theorem exact_drain (h : Owner.Run visits o) :
    ¬(o.state.mode = .draining ∧ o.state.leases.size = 0 ∧ o.state.issueReservations.size = 0) ∧
    (∀ i s', (outcome o.state i).stopped? = some (.normal, s') →
      s'.mode = .draining ∧ s'.leases.size = 0 ∧ s'.issueReservations.size = 0 ∧
      s'.releaseQueue = [] ∧ s'.releaseJob = none ∧
      (∀ requestRef, s'.sent.filterMap (Signal.drainResult requestRef) =
        (((registeredWaiters i.env i.event o.state.drainWaiters).fetch requestRef).map
          fun waiter => (waiter.1, .ok ())).toList) ∧
      ∃ stats, s'.sent.filterMap Signal.farewell =
        o.state.notify.toList.flatMap fun process =>
          [(process, .finalStats stats), (process, .drained)]) ∧
    ∀ before v after, visits = before ++ v :: after → v.pre.state.mode = .draining →
      ∀ w ∈ v :: after, w.post.state.mode = .draining ∧
        (∀ requestRef r, w.post.state.issueReservations.fetch requestRef = some r →
          v.pre.state.issueReservations.fetch requestRef = some r) ∧
        (∀ token entry', w.post.state.leases.fetch token = some entry' →
          (∃ entry, w.pre.state.leases.fetch token = some entry ∧
            entry'.holders ⊆ entry.holders) ∨
          ∃ backendToken, acceptedIn w = some (token, backendToken)) ∧
        ∀ token backendToken, acceptedIn w = some (token, backendToken) →
          ∃ replyTo requestRef r, v.pre.state.issueReservations.fetch requestRef = some r ∧
            r.replyTo = replyTo ∧
            w.input.event = .info (.commitIssue r.reservation backendToken replyTo requestRef) := by
  have hreach : Owner.Reachable o := ⟨visits, h⟩
  refine ⟨hreach.not_drained, fun i s' hstop => ?_, fun before v after hvisits hmode w hw => ?_⟩
  · have hcoupled : Coupled { o.state with sent := [] } := hreach.sound.coupled.congr rfl rfl rfl
    obtain ⟨s₁, rfl, hc⟩ := (outcome_transition o.state i).completes hcoupled hstop
    have hcalm : Calm s₁.sent := hc.calm .nil
    obtain ⟨stats, hfarewell⟩ := completeDrain_farewell i.env hcalm
    obtain ⟨waiters, monitors, sent, heq⟩ := completeDrain_frame i.env s₁
    refine ⟨?_, ?_, ?_, ?_, ?_, fun requestRef => ?_, stats, ?_⟩
    · rw [heq]; exact hc.drained.1
    · rw [heq]; exact hc.drained.2.1
    · rw [heq]; exact hc.drained.2.2
    · rw [heq]; exact hc.idle.2
    · rw [heq]; exact hc.idle.1
    · rw [completeDrain_results i.env hcalm, hc.waiters]
    · rw [hfarewell, hc.notify]
  · obtain ⟨o₀, hinit, hpath⟩ := h
    rw [hvisits] at hpath
    obtain ⟨hbefore, hst, hafter⟩ := hpath.split
    have hsv : v.pre.Sound := Owner.Run.sound ⟨o₀, hinit, hbefore⟩
    obtain ⟨before', after', hsplit⟩ := List.append_of_mem hw
    have hfrom : Path Owner.Step v.pre (v :: after) o :=
      (Path.single hst).append hafter
    rw [hsplit] at hfrom
    obtain ⟨hto, hstw, -⟩ := hfrom.split
    have hsw := (hsv.path hto).1
    have hwinds := draining_path hsv hto hmode
    have hone := draining_path hsw (.single hstw) hwinds.mode
    have hall := draining_path hsv (hto.snoc hstw) hmode
    refine ⟨hone.mode, hall.reservations, fun token entry' hentry' => ?_, ?_⟩
    · rcases hone.leases token entry' hentry' with hold | ⟨backendToken, hmem⟩
      · exact .inl hold
      · rw [filterMap_one, Option.mem_toList] at hmem
        exact .inr ⟨backendToken, hmem⟩
    · intro token backendToken haccepted
      obtain ⟨replyTo, requestRef, r, hr, hreply, hevent⟩ := acceptedBy_reservation haccepted
      exact ⟨replyTo, requestRef, r, hwinds.reservations requestRef r hr, hreply, hevent⟩

/-- The sample owner, closed while its lease is out. -/
theorem exact_drain_sample : ∃ visits o, Owner.Run visits o ∧ o.state.mode = .draining ∧
    ¬(o.state.mode = .draining ∧ o.state.leases.size = 0 ∧ o.state.issueReservations.size = 0) :=
  have h : (Owner.perform (.plain 0) 1001 sampleOptions
      (sampleInputs.take 2 ++ [⟨.plain 27, .close⟩])).isSome = true := rfl
  ⟨_, _, Owner.perform_run h, rfl, (exact_drain (Owner.perform_run h)).1⟩

end VideoInterop.LeaseOwner
