import VideoInterop.LeaseOwner.Callbacks

/-!
# What the private functions leave alone

A `quiet` signal grants nothing, watches no process and starts no release.  The
functions under the callbacks change few fields and mostly send quiet signals.
Each has a lemma that gives its result as one record update of its argument, so
that an invariant about other fields carries over by rewriting.
-/

namespace VideoInterop.LeaseOwner

/-- Signals that grant nothing, watch no process and start no release. -/
def Signal.quiet : Signal → Bool
  | .reply _ _ (.issueReserved (.ok _)) => false
  | .reply _ _ (.issued (.ok _)) => false
  | .reply _ _ (.retained (.ok _)) => false
  | .executeRelease .. => false
  | .monitor .. => false
  | _ => true

/-- `new` is `old` and some quiet signals after it. -/
def Silent (old new : List Signal) : Prop :=
  ∃ extra, new = old ++ extra ∧ ∀ signal ∈ extra, signal.quiet = true

theorem Silent.refl (sent : List Signal) : Silent sent sent :=
  ⟨[], by simp, by simp⟩

theorem Silent.trans {a b c : List Signal} (h : Silent a b) (h' : Silent b c) : Silent a c := by
  obtain ⟨x, rfl, hx⟩ := h
  obtain ⟨y, rfl, hy⟩ := h'
  refine ⟨x ++ y, by simp, fun signal hs => ?_⟩
  rcases List.mem_append.mp hs with hs | hs
  · exact hx signal hs
  · exact hy signal hs

theorem Silent.snoc {a b : List Signal} (h : Silent a b) {signal : Signal}
    (hq : signal.quiet = true) : Silent a (b ++ [signal]) :=
  h.trans ⟨[signal], rfl, by simpa using hq⟩

/-- Filters that reject quiet signals do not see the difference. -/
theorem Silent.filterMap_eq {α : Type} {a b : List Signal} (h : Silent a b)
    {f : Signal → Option α} (hf : ∀ signal, signal.quiet = true → f signal = none) :
    b.filterMap f = a.filterMap f := by
  obtain ⟨extra, rfl, hq⟩ := h
  rw [List.filterMap_append, List.filterMap_eq_nil_iff.mpr fun signal hs =>
    hf signal (hq signal hs),
    List.append_nil]

/-! ## Notifications and replies -/

theorem notify_frame (message : Notification) (s : State) :
    ∃ sent, Silent s.sent sent ∧ notify message s = { s with sent := sent } := by
  unfold notify
  split
  · exact ⟨s.sent, .refl _, rfl⟩
  · exact ⟨_, (Silent.refl _).snoc rfl, rfl⟩

theorem replyReleaseWaiter_frame (waiter : Option Waiter) (result : Except ReleaseError Unit)
    (token : Ref) (s : State) :
    ∃ sent, Silent s.sent sent ∧
      replyReleaseWaiter waiter result token s = { s with sent := sent } := by
  unfold replyReleaseWaiter
  match waiter with
  | none => exact ⟨s.sent, .refl _, rfl⟩
  | some (.retry caller) => exact ⟨_, (Silent.refl _).snoc rfl, rfl⟩
  | some (.issue replyTo requestRef rejectReason) =>
      cases result with
      | ok _ => exact ⟨_, (Silent.refl _).snoc rfl, rfl⟩
      | error reason => exact ⟨_, (Silent.refl _).snoc rfl, rfl⟩

/-! ## Drain waiters -/

theorem removeDrainWaiter_frame (requestRef : Ref) (s : State) :
    ∃ waiters monitors sent, Silent s.sent sent ∧
      removeDrainWaiter requestRef s =
        { s with drainWaiters := waiters, drainMonitors := monitors, sent := sent } := by
  unfold removeDrainWaiter
  split
  · exact ⟨_, _, _, (Silent.refl _).snoc rfl, rfl⟩
  · exact ⟨_, _, _, .refl _, rfl⟩

theorem replyDrainWaiter_frame (requestRef : Ref) (result : Except DrainError Unit) (s : State) :
    ∃ waiters monitors sent, Silent s.sent sent ∧
      replyDrainWaiter requestRef result s =
        { s with drainWaiters := waiters, drainMonitors := monitors, sent := sent } := by
  unfold replyDrainWaiter
  split
  · obtain ⟨waiters, monitors, sent, hsent, h⟩ := removeDrainWaiter_frame requestRef
      (s.send (.reply _ requestRef (.drained result)))
    exact ⟨waiters, monitors, sent, ((Silent.refl _).snoc rfl).trans hsent, h⟩
  · exact ⟨_, _, _, .refl _, rfl⟩

theorem foldl_replyDrainWaiter_frame (result : Except DrainError Unit) :
    ∀ (refs : List Ref) (s : State), ∃ waiters monitors sent, Silent s.sent sent ∧
      refs.foldl (fun s requestRef => replyDrainWaiter requestRef result s) s =
        { s with drainWaiters := waiters, drainMonitors := monitors, sent := sent }
  | [], s => ⟨_, _, _, .refl _, rfl⟩
  | requestRef :: refs, s => by
      obtain ⟨waiters, monitors, sent, hsent, h⟩ := replyDrainWaiter_frame requestRef result s
      obtain ⟨waiters', monitors', sent', hsent', h'⟩ := foldl_replyDrainWaiter_frame result refs
        { s with drainWaiters := waiters, drainMonitors := monitors, sent := sent }
      exact ⟨waiters', monitors', sent', hsent.trans hsent', by rw [List.foldl_cons, h, h']⟩

theorem replyAllDrainWaiters_frame (env : Env) (result : Except DrainError Unit) (s : State) :
    ∃ waiters monitors sent, Silent s.sent sent ∧
      replyAllDrainWaiters env result s =
        { s with drainWaiters := waiters, drainMonitors := monitors, sent := sent } :=
  foldl_replyDrainWaiter_frame result _ s

/-! ## Retry timers -/

theorem scheduleRetry_frame (env : Env) (token : Ref) (entry : Entry) (s : State) :
    ∃ timers sent, Silent s.sent sent ∧
      scheduleRetry env token entry s = { s with retryTimers := timers, sent := sent } := by
  unfold scheduleRetry
  split
  · exact ⟨_, _, .refl _, rfl⟩
  · split
    · exact ⟨_, _, (Silent.refl _).snoc rfl, rfl⟩
    · exact ⟨_, _, .refl _, rfl⟩

theorem cancelRetryTimer_eq (token : Ref) (s : State) :
    ∃ sent, Silent s.sent sent ∧
      cancelRetryTimer token s =
        { s with retryTimers := s.retryTimers.delete token, sent := sent } := by
  unfold cancelRetryTimer
  cases h : s.retryTimers.fetch token with
  | none => exact ⟨s.sent, .refl _, by simp [FMap.delete_of_none h]⟩
  | some timer => exact ⟨_, (Silent.refl _).snoc rfl, rfl⟩

/-! ## Pending issues and retains -/

/-- The index of pending issues once the issue of `entry` is no longer pending. -/
def issuesWithout (entry : Entry) (issues : FMap Ref Ref) : FMap Ref Ref :=
  match entry.pendingIssue with
  | none => issues
  | some (_, requestRef) => issues.delete requestRef

/-- The monitors once the issue of `entry` is no longer pending. -/
def monitorsWithoutIssue (entry : Entry) (monitors : FMap Ref MonitorTarget) :
    FMap Ref MonitorTarget :=
  match entry.pendingIssue with
  | none => monitors
  | some (monitorRef, _) => monitors.delete monitorRef

/-- The monitors once the retain of `holder` is no longer pending. -/
def monitorsWithoutRetain (holder : Ref) (entry : Entry) (monitors : FMap Ref MonitorTarget) :
    FMap Ref MonitorTarget :=
  match entry.pendingRetains.fetch holder with
  | none => monitors
  | some (monitorRef, _) => monitors.delete monitorRef

theorem clearPendingIssue_eq (entry : Entry) (s : State) :
    ∃ sent, Silent s.sent sent ∧
      clearPendingIssue entry s =
        ({ entry with pendingIssue := none },
          { s with
            pendingIssues := issuesWithout entry s.pendingIssues
            protocolMonitors := monitorsWithoutIssue entry s.protocolMonitors
            sent := sent }) := by
  obtain ⟨_, _, _, _, _, pendingIssue, _, _, _⟩ := entry
  cases pendingIssue with
  | none => exact ⟨s.sent, .refl _, rfl⟩
  | some pending => exact ⟨_, (Silent.refl _).snoc rfl, rfl⟩

theorem clearPendingRetain_eq (holder : Ref) (entry : Entry) (s : State) :
    ∃ sent, Silent s.sent sent ∧
      clearPendingRetain holder entry s =
        ({ entry with pendingRetains := entry.pendingRetains.delete holder },
          { s with
            protocolMonitors := monitorsWithoutRetain holder entry s.protocolMonitors
            sent := sent }) := by
  unfold clearPendingRetain monitorsWithoutRetain
  match h : entry.pendingRetains.fetch holder with
  | none => exact ⟨s.sent, .refl _, by simp [FMap.delete_of_none h]⟩
  | some (monitorRef, requestRef) => exact ⟨_, (Silent.refl _).snoc rfl, rfl⟩

theorem foldl_dropProtocolMonitor : ∀ (refs : List Ref) (s : State),
    ∃ sent, Silent s.sent sent ∧
      refs.foldl dropProtocolMonitor s =
        { s with protocolMonitors := refs.foldl FMap.delete s.protocolMonitors, sent := sent }
  | [], s => ⟨s.sent, .refl _, rfl⟩
  | monitorRef :: refs, s => by
      obtain ⟨sent, hsent, h⟩ := foldl_dropProtocolMonitor refs (dropProtocolMonitor s monitorRef)
      exact ⟨sent, ((Silent.refl _).snoc rfl).trans hsent, by rw [List.foldl_cons, h]; rfl⟩

/-- The monitors once no issue and no retain of `entry` is pending. -/
def monitorsWithout (env : Env) (entry : Entry) (monitors : FMap Ref MonitorTarget) :
    FMap Ref MonitorTarget :=
  (pendingRetainMonitors env entry).foldl FMap.delete (monitorsWithoutIssue entry monitors)

/-! ## Queueing a release -/

/-- The entry while it waits for its release. -/
def Entry.queued (entry : Entry) (generation : Ref) : Entry :=
  { entry with
    pendingIssue := none
    pendingRetains := ∅
    releaseAttempts := entry.releaseAttempts + 1
    status := .releaseQueued generation }

/-- The job `release_entry` makes. -/
def releaseJobOf (env : Env) (token : Ref) (entry : Entry) (isRetry : Bool)
    (waiter : Option Waiter) : Job where
  token := token
  generation := env.generation
  backendToken := entry.backendToken
  attempt := entry.releaseAttempts + 1
  isRetry := isRetry
  waiter := waiter

/-- `release_entry` before it dispatches. -/
def State.enqueueRelease (env : Env) (token : Ref) (entry : Entry) (isRetry : Bool)
    (waiter : Option Waiter) (sent : List Signal) (s : State) : State :=
  { s with
    leases := s.leases.put token (entry.queued env.generation)
    releaseQueue := s.releaseQueue ++ [releaseJobOf env token entry isRetry waiter]
    pendingIssues := issuesWithout entry s.pendingIssues
    protocolMonitors := monitorsWithout env entry s.protocolMonitors
    retryTimers := s.retryTimers.delete token
    sent := sent }

theorem releaseEntry_eq (env : Env) (token : Ref) (entry : Entry) (s : State) (isRetry : Bool)
    (waiter : Option Waiter) :
    ∃ sent, Silent s.sent sent ∧
      releaseEntry env token entry s isRetry waiter =
        dispatchNextRelease env (s.enqueueRelease env token entry isRetry waiter sent) := by
  obtain ⟨sent₁, hsent₁, h₁⟩ := clearPendingIssue_eq entry s
  unfold releaseEntry
  rw [h₁]
  simp only [clearAllPendingRetains]
  obtain ⟨sent₂, hsent₂, h₂⟩ := foldl_dropProtocolMonitor
    (pendingRetainMonitors env { entry with pendingIssue := none })
    { s with
      pendingIssues := issuesWithout entry s.pendingIssues
      protocolMonitors := monitorsWithoutIssue entry s.protocolMonitors
      sent := sent₁ }
  rw [h₂]
  obtain ⟨sent₃, hsent₃, h₃⟩ := cancelRetryTimer_eq token
    { s with
      pendingIssues := issuesWithout entry s.pendingIssues
      protocolMonitors := monitorsWithout env entry s.protocolMonitors
      sent := sent₂ }
  exact ⟨sent₃, (hsent₁.trans hsent₂).trans hsent₃, congrArg (fun s' : State =>
    dispatchNextRelease env
      { s' with
        leases := s'.leases.put token (entry.queued env.generation)
        releaseQueue := s'.releaseQueue ++ [releaseJobOf env token entry isRetry waiter] }) h₃⟩

/-! ## Dispatching -/

/-- A dispatch does nothing or hands the oldest job to the executor. -/
theorem dispatchNextRelease_cases {env : Env} {s s' : State}
    (h : dispatchNextRelease env s = some s') :
    (s' = s ∧ (s.releaseJob = none → s.releaseQueue = [])) ∨
      ∃ job rest entry, s.releaseJob = none ∧ s.releaseQueue = job :: rest ∧
        s.leases.fetch job.token = some entry ∧
        s' =
          { s with
            sent := s.sent ++
              [.executeRelease s.releaseExecutor job.token job.generation job.backendToken]
            releaseQueue := rest
            releaseJob := some { job with startedNs := env.clock .started }
            leases :=
              s.leases.put job.token { entry with status := .releasing job.generation } } := by
  unfold dispatchNextRelease at h
  split at h
  · next job rest hjob hqueue =>
      split at h
      · next entry hentry =>
          exact .inr ⟨job, rest, entry, hjob, hqueue, hentry, (Option.some.inj h).symm⟩
      · cases h
  · next hne =>
      refine .inl ⟨(Option.some.inj h).symm, fun hjob => ?_⟩
      cases hqueue : s.releaseQueue with
      | nil => rfl
      | cons job rest => exact absurd hqueue (hne job rest hjob)

theorem dispatch_frame {env : Env} {s s' : State} (h : dispatchNextRelease env s = some s') :
    ∃ leases queue job sent, s' =
      { s with leases := leases, releaseQueue := queue, releaseJob := job, sent := sent } := by
  rcases dispatchNextRelease_cases h with ⟨rfl, -⟩ | ⟨job, rest, entry, -, -, -, rfl⟩
  · exact ⟨_, _, _, _, rfl⟩
  · exact ⟨_, _, _, _, rfl⟩

/-- A release touches its lease, the queue and what belongs to pending issues,
pending retains and retries. -/
theorem releaseEntry_frame {env : Env} {token : Ref} {entry : Entry} {s s' : State}
    {isRetry : Bool} {waiter : Option Waiter}
    (h : releaseEntry env token entry s isRetry waiter = some s') :
    ∃ leases queue job timers sent, s' =
      { s with
        leases := leases
        releaseQueue := queue
        releaseJob := job
        pendingIssues := issuesWithout entry s.pendingIssues
        protocolMonitors := monitorsWithout env entry s.protocolMonitors
        retryTimers := timers
        sent := sent } := by
  obtain ⟨sent, -, heq⟩ := releaseEntry_eq env token entry s isRetry waiter
  rw [heq] at h
  obtain ⟨leases, queue, job, sent', rfl⟩ := dispatch_frame h
  exact ⟨leases, queue, job, _, sent', rfl⟩

/-! ## Finishing a job -/

theorem countFinished_eq (job : RunningJob) (durationNs : Nat) (s : State) :
    ∃ counters, countFinished job durationNs s =
      { s with releaseJob := none, counters := counters } := by
  unfold countFinished maybeCountRetry
  split
  · exact ⟨_, rfl⟩
  · exact ⟨_, rfl⟩

theorem finishOk_eq (token : Ref) (entry : Entry) (job : RunningJob) (value : Term)
    (durationNs : Nat) (s : State) :
    ∃ sent, Silent s.sent sent ∧
      finishOk token entry job value durationNs s =
        { s with
          leases := s.leases.delete token
          leaseAgeIndex := s.leaseAgeIndex.erase (entry.issuedAtNs, token)
          sent := sent } := by
  unfold finishOk
  simp only
  split
  · obtain ⟨sent₁, hsent₁, h₁⟩ := notify_frame
      (.leaseReleased token entry.metadata value durationNs job.attempt)
      { s with
        leases := s.leases.delete token
        leaseAgeIndex := s.leaseAgeIndex.erase (entry.issuedAtNs, token) }
    rw [h₁]
    obtain ⟨sent₂, hsent₂, h₂⟩ := replyReleaseWaiter_frame job.waiter (.ok ()) token _
    exact ⟨sent₂, hsent₁.trans hsent₂, h₂⟩
  · obtain ⟨sent, hsent, h⟩ := replyReleaseWaiter_frame job.waiter (.ok ()) token
      { s with
        leases := s.leases.delete token
        leaseAgeIndex := s.leaseAgeIndex.erase (entry.issuedAtNs, token) }
    exact ⟨sent, hsent, h⟩

theorem finishError_eq (env : Env) (token : Ref) (entry : Entry) (job : RunningJob)
    (reason : ReleaseError) (s : State) :
    ∃ counters timers waiters monitors sent, Silent s.sent sent ∧
      finishError env token entry job reason s =
        { s with
          leases := s.leases.put token { entry with status := .releaseFailed reason }
          counters := counters
          retryTimers := timers
          drainWaiters := waiters
          drainMonitors := monitors
          sent := sent } := by
  unfold finishError
  simp only
  obtain ⟨sent₁, hsent₁, h₁⟩ := notify_frame (.leaseReleaseFailed token entry.metadata reason)
    ({ s with leases := s.leases.put token { entry with status := .releaseFailed reason }
      }.updateCounter .releaseFailures 1)
  rw [h₁]
  obtain ⟨sent₂, hsent₂, h₂⟩ := replyReleaseWaiter_frame job.waiter (.error reason) token _
  rw [h₂]
  obtain ⟨waiters, monitors, sent₃, hsent₃, h₃⟩ := replyAllDrainWaiters_frame env
    (.error (.releaseFailed token reason)) _
  rw [h₃]
  obtain ⟨timers, sent₄, hsent₄, h₄⟩ := scheduleRetry_frame env token _ _
  exact ⟨_, timers, waiters, monitors, sent₄,
    ((hsent₁.trans hsent₂).trans hsent₃).trans hsent₄, h₄⟩

/-- A result either succeeds or fails; an invalid one is no result. -/
theorem settle_cases {env : Env} {token : Ref} {entry : Entry} {job : RunningJob} {result : Finish}
    {durationNs : Nat} {s s' : State}
    (h : settle env token entry job result durationNs s = some s') :
    (∃ value, result = .ok value ∧ s' = finishOk token entry job value durationNs s) ∨
      ∃ reason, result = .error reason ∧ s' = finishError env token entry job reason s := by
  cases result with
  | ok value => exact .inl ⟨value, rfl, (Option.some.inj h).symm⟩
  | error reason => exact .inr ⟨reason, rfl, (Option.some.inj h).symm⟩
  | invalid => cases h

/-! ## Tombstones -/

theorem evictReleaseTombstones_frame {s s' : State} (h : evictReleaseTombstones s = some s') :
    ∃ tombstones order counters, s' =
      { s with
        releaseTombstones := tombstones
        releaseTombstoneOrder := order
        counters := counters } := by
  unfold evictReleaseTombstones at h
  split at h
  · cases h
    exact ⟨_, _, _, rfl⟩
  · split at h
    · cases h
    · split at h
      · cases h
      · simp only at h
        cases h
        split
        · exact ⟨_, _, _, rfl⟩
        · exact ⟨_, _, _, rfl⟩

theorem putReleaseTombstone_frame {holderId : Ref × Ref} {classification : Classification}
    {s s' : State} (h : putReleaseTombstone holderId classification s = some s') :
    ∃ tombstones order counters, s' =
      { s with
        releaseTombstones := tombstones
        releaseTombstoneOrder := order
        counters := counters } := by
  unfold putReleaseTombstone at h
  split at h
  · cases h
    exact ⟨_, _, _, rfl⟩
  · obtain ⟨tombstones, order, counters, heq⟩ := evictReleaseTombstones_frame h
    exact ⟨tombstones, order, counters, heq⟩

end VideoInterop.LeaseOwner
