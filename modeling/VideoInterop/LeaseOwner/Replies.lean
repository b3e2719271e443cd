import VideoInterop.LeaseOwner.Mail
import VideoInterop.LeaseOwner.Retirement

/-!
# One reply for each request

What a run asked and what it answered is read off its visits.  A reserve, an
accepted commit, a retain and a retry call are each answered once: in the
callback that takes them, or in the callback that ends the job their answer
waits in.  A drain waiter is answered at most once, and is forgotten only when
it asked for that or died.
-/

namespace VideoInterop.LeaseOwner

/-! ## Requests of an event -/

/-- The request an event is. -/
def askedBy (env : Env) (s : State) (event : Event) : Option Request :=
  match event with
  | .info (.reserveIssue _ _ requestRef) => some (.reserve requestRef)
  | .info (.commitIssue _ _ _ requestRef) =>
      (acceptedBy env s event).map fun _ => .issue requestRef
  | .info (.retain _ _ _ _ requestRef) => some (.retain requestRef)
  | .retry _ caller => some (.retry caller)
  | _ => none

/-- The drain waiter an event brings. -/
def joinedBy (env : Env) : Event → Option DrainWaiter
  | .info (.drain replyTo requestRef) => some (requestRef, replyTo, env.monitorRef)
  | _ => none

/-- The request that is answered because the event ends the running job. -/
def settledBy (s : State) (event : Event) : Option Request :=
  (endedBy s event).bind fun _ => s.releaseJob.bind fun job => job.toJob.deferred

/-- The waiter cancelled its drain, or its monitor fired. -/
def Leaves (event : Event) (x : DrainWaiter) : Prop :=
  event = .info (.cancelDrain x.1) ∨ ∃ reason, event = .info (.down (some x.2.2) reason)

/-- The reply a retry call gets with the outcome itself. -/
def callReplies (event : Event) (out : Outcome) : List Signal :=
  match event, out with
  | .retry _ caller, .reply (.retryError error) _ => [.callReply caller (.error error)]
  | _, _ => []

/-- The state of an outcome that did not raise. -/
def Outcome.state? : Outcome → Option State
  | .noreply s | .continue s | .reply _ s | .stop _ s | .stopReply _ _ s => some s
  | .raise => none

/-- What a callback does with requests and drain waiters. -/
structure Corresponds (env : Env) (s : State) (event : Event) (out : Outcome)
    (letters : List Letter) (s' : State) : Prop where
  /-- The letters lead from one state to the other. -/
  trace : Trace Mail.Step s.mail letters s'.mail
  /-- What was sent answers the requests the letters answer. -/
  answers : (s'.sent ++ callReplies event out).filterMap Signal.answers =
    s.sent.filterMap Signal.answers ++ letters.filterMap Letter.answered
  /-- What was sent answers the drain waiters the letters answer. -/
  drained : s'.sent.filterMap Signal.drained =
    s.sent.filterMap Signal.drained ++ (letters.filterMap Letter.replied).map Prod.fst
  /-- The letters take what the event asks. -/
  taken : letters.filterMap Letter.taken = (askedBy env s event).toList
  /-- They settle what the event ends. -/
  settled : letters.filterMap Letter.settled = (settledBy s event).toList
  /-- They let the drain wait that the event begins. -/
  joined : letters.filterMap Letter.joined = (joinedBy env event).toList
  /-- They drop only a waiter that the event takes away. -/
  dropped : ∀ x ∈ letters.filterMap Letter.dropped, Leaves event x

/-- The owner has answered everybody when it stops. -/
def Outcome.Settled (out : Outcome) : Prop :=
  ∀ s', out.stopped? = some (.normal, s') → s'.drainWaiters.entries = [] ∧ s'.deferred = []

/-- A callback that does not raise, and corresponds. -/
def Replies (env : Env) (s : State) (event : Event) (out : Outcome) : Prop :=
  ∃ s' letters, out.state? = some s' ∧ Corresponds env s event out letters s' ∧ out.Settled

variable {env : Env} {s s' s₁ : State} {event : Event} {out : Outcome} {token : Ref} {entry : Entry}

/-! ## The end of a callback -/

/-- The callback leaves the mail of `s` alone, or it answers the drain waiters and
stops. -/
def Ends (s : State) (out : Outcome) : Prop :=
  ∃ s', ∃ xs : List DrainWaiter, out.state? = some s' ∧ Mails s (xs.map .reply) s' ∧ out.Settled

theorem Outcome.settled_of_live (h : out.live? = some s') : out.Settled :=
  fun _ hstop => (live_not_stopped h hstop).elim

theorem Outcome.state_of_live (h : out.live? = some s') : out.state? = some s' := by
  cases out <;> first | exact h | cases h

theorem Ends.before (h : Mute s s₁) (h' : Ends s₁ out) : Ends s out := by
  obtain ⟨s', xs, hstate, hmails, hsettled⟩ := h'
  exact ⟨s', xs, hstate, h.before hmails, hsettled⟩

theorem Ends.live (h : Mute s s') (hlive : out.live? = some s') : Ends s out :=
  ⟨s', [], Outcome.state_of_live hlive, h.mails, Outcome.settled_of_live hlive⟩

theorem completeDrain_mails (env : Env) (s : State) :
    ∃ xs : List DrainWaiter, Mails s (xs.map .reply) (completeDrain env s) ∧
      (completeDrain env s).drainWaiters.entries = [] := by
  unfold completeDrain
  simp only
  have hstop : Mute s (s.send (.stopReleaseExecutor s.releaseExecutor)) :=
    .sent [.stopReleaseExecutor s.releaseExecutor] rfl rfl rfl rfl rfl rfl rfl
  obtain ⟨xs, hmails, hempty⟩ := replyAllDrainWaiters_mails env (.ok ())
    (s.send (.stopReleaseExecutor s.releaseExecutor))
  generalize replyAllDrainWaiters env (.ok ()) (s.send (.stopReleaseExecutor s.releaseExecutor)) =
    s₁ at hmails hempty
  have hnotify := (notify_mute (.finalStats (statsSnapshot env s₁)) s₁).trans
    (notify_mute .drained _)
  refine ⟨xs, (hstop.before hmails).after hnotify, ?_⟩
  rw [← hempty]
  exact congrArg (fun M : Mail => M.waiters.entries) hnotify.mail

/-- An idle owner that completes its drain. -/
theorem Ends.drain (env : Env) (hjob : s.releaseJob = none) (hqueue : s.releaseQueue = [])
    (hstate : out.state? = some (completeDrain env s))
    (hstop : out.stopped? = some (.normal, completeDrain env s)) : Ends s out := by
  obtain ⟨xs, hmails, hempty⟩ := completeDrain_mails env s
  refine ⟨_, xs, hstate, hmails, fun s' hs' => ?_⟩
  rw [hstop] at hs'
  cases hs'
  obtain ⟨waiters, monitors, sent, hframe⟩ := completeDrain_frame env s
  refine ⟨hempty, ?_⟩
  rw [hframe]
  simp [State.deferred, State.jobs, hjob, hqueue]

theorem stopOrContinue_ends (env : Env) (s : State) :
    Ends s (stopOrContinueAfterRelease env s) := by
  unfold stopOrContinueAfterRelease
  split
  · next hd =>
      obtain ⟨-, -, hjob, hqueue⟩ := drained?_idle hd.2
      exact .drain env hjob hqueue rfl rfl
  · exact .live (.refl s) rfl

theorem beginProducerDrain_ends (env : Env) (s : State) : Ends s (beginProducerDrain env s) := by
  have hmute : Mute s { s with mode := .draining, producer := none, producerMonitor := none } :=
    .fields rfl rfl rfl rfl rfl
  unfold beginProducerDrain
  simp only
  split
  · next hd =>
      obtain ⟨-, -, hjob, hqueue⟩ := drained?_idle hd
      exact .before hmute (.drain env hjob hqueue rfl rfl)
  · exact .live hmute rfl

theorem handleClose_ends (env : Env) (s : State) : Ends s (handleClose env s) := by
  have hmute : Mute s { s with mode := .draining } := .fields rfl rfl rfl rfl rfl
  unfold handleClose
  simp only
  split
  · next hd =>
      obtain ⟨-, -, hjob, hqueue⟩ := drained?_idle hd
      exact .before hmute (.drain env hjob hqueue rfl rfl)
  · exact .live hmute rfl

theorem Mails.mute (h : Mails s [] s') : Mute s s' := by
  obtain ⟨htrace, hanswers, hdrained⟩ := h
  have hnil : ∀ M M' : Mail, Trace Mail.Step M [] M' → M' = M := fun M M' h => by
    cases h
    rfl
  exact ⟨hnil _ _ htrace, by simpa using hanswers, by simpa using hdrained⟩

/-- A lease that is set aside can always be released. -/
theorem releaseEntry_some (env : Env) (entry : Entry)
    (h : MirrorsExcept token s.leases (serialQueue s))
    (hholders : entry.holders = ∅) (isRetry : Bool) (waiter : Option Waiter) :
    ∃ s', releaseEntry env token entry s isRetry waiter = some s' := by
  obtain ⟨sent, -, heq⟩ := releaseEntry_eq env token entry s isRetry waiter
  rw [heq]
  exact dispatch_some env (h.enqueueRelease env hholders isRetry waiter sent)

theorem removeHolder_ends (env : Env) (holder : Ref) {entry₀ : Entry} (h : Coupled s)
    (hentry : s.leases.fetch token = some entry₀) (hactive : entry₀.status = .active) :
    Ends s (removeHolder env token holder entry s) := by
  have hmute : Mute s { s with activeHolders := s.activeHolders - 1 } := .fields rfl rfl rfl rfl rfl
  unfold removeHolder
  split
  · simp only
    split
    · next hlast =>
        obtain ⟨s', hrelease⟩ := releaseEntry_some env
          { entry with holders := entry.holders.erase holder }
          (s := { s with activeHolders := s.activeHolders - 1 })
          (h.mirrors.except_active hentry hactive) (Finset.card_eq_zero.mp hlast) false none
        rw [hrelease]
        exact .before (hmute.trans (releaseEntry_mails hrelease).mute) (stopOrContinue_ends env s')
    · refine .live (hmute.trans ?_) rfl
      exact .fields rfl rfl rfl rfl rfl
  · refine .live ?_ rfl
    exact .fields rfl rfl rfl rfl rfl

theorem cancelPendingIssue_ends (env : Env) (token : Ref) (h : Coupled s) :
    Ends s (cancelPendingIssue env token s) := by
  unfold cancelPendingIssue
  split
  · next entry hentry =>
      split
      · next pending hactive hpending =>
          obtain ⟨sent, -, hclear⟩ := clearPendingIssue_eq entry s
          have hmute := clearPendingIssue_mute entry s
          rw [hclear] at hmute ⊢
          simp only
          obtain ⟨s', hrelease⟩ := releaseEntry_some env
            { entry with pendingIssue := none, holders := ∅ }
            (s := { s with
              pendingIssues := issuesWithout entry s.pendingIssues
              protocolMonitors := monitorsWithoutIssue entry s.protocolMonitors
              sent := sent
              activeHolders := s.activeHolders - entry.holders.card })
            (h.mirrors.except_active hentry hactive) rfl false none
          rw [hrelease]
          refine .before (Mute.trans ?_ (releaseEntry_mails hrelease).mute)
            (stopOrContinue_ends env s')
          exact hmute.trans (.fields rfl rfl rfl rfl rfl)
      · exact .live (.refl s) rfl
  · exact .live (.refl s) rfl

theorem retire_ends (env : Env) (classification : Classification) (holder : Ref) (h : Coupled s)
    (hlisted : Listed s.releaseTombstones s.releaseTombstoneOrder)
    (hentry : s.leases.fetch token = some entry) (hactive : entry.status = .active) :
    Ends s
      (match putReleaseTombstone (token, holder) classification
          ((clearPendingRetain holder entry s).2.updateCounter classification.counter 1) with
      | some s₁ => removeHolder env token holder (clearPendingRetain holder entry s).1 s₁
      | none => .raise) := by
  obtain ⟨sent, -, hclear⟩ := clearPendingRetain_eq holder entry s
  have hmute := clearPendingRetain_mute holder entry s
  rw [hclear] at hmute ⊢
  simp only at hmute ⊢
  obtain ⟨s₁, hput⟩ := putReleaseTombstone_some (token, holder) classification
    (s := State.updateCounter { s with
      protocolMonitors := monitorsWithoutRetain holder entry s.protocolMonitors
      sent := sent } classification.counter 1) hlisted
  have hcounted : Mute s (State.updateCounter { s with
      protocolMonitors := monitorsWithoutRetain holder entry s.protocolMonitors
      sent := sent } classification.counter 1) := hmute.trans (.fields rfl rfl rfl rfl rfl)
  have hmute₁ := hcounted.trans (putReleaseTombstone_mute hput)
  rw [hput]
  obtain ⟨_, _, _, rfl⟩ := putReleaseTombstone_frame hput
  exact .before hmute₁ (removeHolder_ends env holder (h.congr rfl rfl rfl) hentry hactive)

/-! ## The end of a job -/

theorem deferred_running {job : RunningJob} (hjob : s.releaseJob = some job) :
    s.deferred = job.toJob.deferred.toList ++ s.releaseQueue.filterMap Job.deferred := by
  rw [State.deferred, State.jobs, hjob]
  cases hd : job.toJob.deferred <;> simp [hd]

/-- The waiter of the job that ended is answered. -/
theorem replyReleaseWaiter_mails {job : RunningJob} (hjob : s.releaseJob = some job)
    (result : Except ReleaseError Unit) (token : Ref)
    (hmute : Mute { s with releaseJob := none } s₁) :
    Mails s (job.toJob.deferred.toList.map .settle)
      (replyReleaseWaiter job.waiter result token s₁) := by
  obtain ⟨hmail, hanswers, hdrained⟩ := replyReleaseWaiter_sent job.waiter result token s₁
  have hrest : (replyReleaseWaiter job.waiter result token s₁).mail =
      { s.mail with deferred := s.releaseQueue.filterMap Job.deferred } := hmail.trans hmute.mail
  have hline := deferred_running hjob
  refine ⟨?_, ?_, ?_⟩
  · rw [hrest]
    cases hd : job.toJob.deferred with
    | none =>
        rw [hd] at hline
        have hsame :
          s.mail = { s.mail with deferred := s.releaseQueue.filterMap Job.deferred } := by
          rw [State.mail, hline]
          rfl
        rw [← hsame]
        exact .nil
    | some r =>
        rw [hd] at hline
        exact .single (.settle hline)
  · rw [hanswers, hmute.answers]
    cases hw : job.waiter <;> simp [Job.deferred, hw, Letter.answered]
  · rw [hdrained, hmute.drained]
    cases hw : job.waiter <;> simp [Job.deferred, hw, Letter.replied]

theorem countFinished_mute (job : RunningJob) (durationNs : Nat) (s : State) :
    Mute { s with releaseJob := none } (countFinished job durationNs s) := by
  obtain ⟨counters, heq⟩ := countFinished_eq job durationNs s
  rw [heq]
  exact .fields rfl rfl rfl rfl rfl

theorem settle_mails {job : RunningJob} {result : Finish} {durationNs : Nat}
    (hjob : s.releaseJob = some job)
    (hsettle : settle env token entry job result durationNs (countFinished job durationNs s) =
      some s') :
    ∃ xs : List DrainWaiter,
      Mails s (job.toJob.deferred.toList.map .settle ++ xs.map .reply) s' := by
  have hcount := countFinished_mute job durationNs s
  generalize countFinished job durationNs s = s₀ at hsettle hcount
  rcases settle_cases hsettle with ⟨value, -, rfl⟩ | ⟨reason, -, rfl⟩
  · refine ⟨[], ?_⟩
    rw [List.map_nil, List.append_nil]
    refine replyReleaseWaiter_mails hjob (.ok ()) token (hcount.trans ?_)
    split
    · refine Mute.trans ?_ (notify_mute _ _)
      exact .fields rfl rfl rfl rfl rfl
    · exact .fields rfl rfl rfl rfl rfl
  · unfold finishError
    simp only
    obtain ⟨xs, hflush, -⟩ := replyAllDrainWaiters_mails env (.error (.releaseFailed token reason))
      (replyReleaseWaiter job.waiter (.error reason) token
        (notify (.leaseReleaseFailed token entry.metadata reason)
          ({ s₀ with leases := s₀.leases.put token { entry with status := .releaseFailed reason }
            }.updateCounter .releaseFailures 1)))
    refine ⟨xs, Mails.after (Mails.append ?_ hflush) (scheduleRetry_mute _ _ _ _)⟩
    refine replyReleaseWaiter_mails hjob (.error reason) token (hcount.trans ?_)
    refine Mute.trans ?_ (notify_mute _ _)
    exact .fields rfl rfl rfl rfl rfl

theorem settle_some (env : Env) (token : Ref) (entry : Entry)
    {result : Finish} (hresult : result ≠ .invalid) (job : RunningJob)
    (durationNs : Nat) (s : State) :
    ∃ s', settle env token entry job result durationNs s = some s' := by
  cases result with
  | ok value => exact ⟨_, rfl⟩
  | error reason => exact ⟨_, rfl⟩
  | invalid => exact absurd rfl hresult

/-- The running job ends. -/
theorem finishReleaseJob_ends (env : Env) {job : RunningJob} {result : Finish} (h : Coupled s)
    (hjob : s.releaseJob = some job) (hresult : result ≠ .invalid) (durationNs : Nat) :
    ∃ s₁, ∃ xs : List DrainWaiter,
      Mails s (job.toJob.deferred.toList.map .settle ++ xs.map .reply) s₁ ∧
        Ends s₁ (finishReleaseJob env job.token job.generation result durationNs s) := by
  have hrun := serialQueue_running hjob
  obtain ⟨entry, hentry, hstatus, -⟩ := ((h.mirrors.mirror job.token).releasing _).mp hrun
  obtain ⟨s₁, hsettle⟩ := settle_some env job.token entry hresult job durationNs
     (countFinished job durationNs s)
  have hmirrors : Mirrors s₁.leases (serialQueue s₁) := by
    rcases settle_cases hsettle with ⟨value, -, rfl⟩ | ⟨reason, -, rfl⟩
    · exact finishOk_mirrors h hrun
    · exact finishError_mirrors h hentry hstatus hrun
  obtain ⟨s₂, hdispatch⟩ := dispatch_some env hmirrors
  obtain ⟨xs, hmails⟩ := settle_mails hjob hsettle
  have hstatus' : entry.status.releasing? = some job.generation := by
    rw [hstatus]
    rfl
  refine ⟨s₁, xs, hmails, .before (dispatch_mute hdispatch) ?_⟩
  simp only [finishReleaseJob, hjob, hentry, hstatus', and_self, if_true, hsettle, hdispatch]
  exact stopOrContinue_ends env s₂

/-! ## Every callback -/

theorem filterMap_reply {α : Type} (xs : List DrainWaiter) {f : Letter → Option α}
    (hf : ∀ x, f (.reply x) = none) : (xs.map Letter.reply).filterMap f = [] := by
  rw [List.filterMap_map]
  exact List.filterMap_eq_nil_iff.mpr fun x _ => hf x

/-- What a callback did before its end. -/
theorem Replies.of {letters : List Letter} (h : Mails s letters s₁) (hends : Ends s₁ out)
    (hcall : callReplies event out = [])
    (htaken : letters.filterMap Letter.taken = (askedBy env s event).toList)
    (hsettled : letters.filterMap Letter.settled = (settledBy s event).toList)
    (hjoined : letters.filterMap Letter.joined = (joinedBy env event).toList)
    (hdropped : ∀ x ∈ letters.filterMap Letter.dropped, Leaves event x) :
    Replies env s event out := by
  obtain ⟨s', xs, hstate, hmails, hstop⟩ := hends
  have hall := h.append hmails
  refine ⟨s', letters ++ xs.map .reply, hstate,
    ⟨hall.trace, ?_, hall.drained, ?_, ?_, ?_, ?_⟩, hstop⟩
  · rw [hcall, List.append_nil]
    exact hall.answers
  · rw [List.filterMap_append, filterMap_reply xs fun _ => rfl, List.append_nil, htaken]
  · rw [List.filterMap_append, filterMap_reply xs fun _ => rfl, List.append_nil, hsettled]
  · rw [List.filterMap_append, filterMap_reply xs fun _ => rfl, List.append_nil, hjoined]
  · rw [List.filterMap_append, filterMap_reply xs fun _ => rfl, List.append_nil]
    exact hdropped

/-- An event that is no request and ends no job. -/
theorem Replies.still (hends : Ends s out) (hcall : callReplies event out = [])
    (hasked : askedBy env s event = none) (hended : endedBy s event = none)
    (hjoined : joinedBy env event = none) : Replies env s event out :=
  .of (Mute.refl s).mails hends hcall (by rw [hasked]; rfl) (by rw [settledBy, hended]; rfl)
    (by rw [hjoined]; rfl) (by simp)

/-- A request that is answered at once. -/
theorem Replies.answered (signal : Signal) {r : Request} (hmute : Mute s s₁)
    (hlive : out.live? = some (s₁.send signal)) (hanswers : signal.answers = some r)
    (hdrained : signal.drained = none) (hcall : callReplies event out = [])
    (hasked : askedBy env s event = some r) (hended : endedBy s event = none)
    (hjoined : joinedBy env event = none) : Replies env s event out :=
  .of (hmute.before (.answer hanswers hdrained s₁)) (.live (.refl _) hlive) hcall
    (by rw [hasked]; rfl) (by rw [settledBy, hended]; rfl) (by rw [hjoined]; rfl)
    (by simp [Letter.dropped])

/-- A request whose answer will be the outcome of a job. -/
theorem Replies.deferred {waiter : Waiter} (h : Mails s (deferrals (some waiter)) s₁)
    (hlive : out.live? = some s₁) (hcall : callReplies event out = [])
    (hasked : askedBy env s event = some waiter.request) (hended : endedBy s event = none)
    (hjoined : joinedBy env event = none) : Replies env s event out :=
  .of h (.live (.refl _) hlive) hcall (by rw [hasked]; rfl) (by rw [settledBy, hended]; rfl)
    (by rw [hjoined]; rfl) (by simp [deferrals, Letter.dropped])

theorem handleReserveIssue_replies (metadata : Term) (replyTo : Pid) (requestRef : Ref) :
    Replies env s (.info (.reserveIssue metadata replyTo requestRef))
      (handleReserveIssue env metadata replyTo requestRef s) := by
  unfold handleReserveIssue
  split
  · exact .answered (.reply _ _ _) (.refl s) rfl rfl rfl rfl rfl rfl rfl
  · split
    · exact .answered (.reply _ _ _) (.refl s) rfl rfl rfl rfl rfl rfl rfl
    · refine .answered (.reply _ _ _) ?_ rfl rfl rfl rfl rfl rfl rfl
      exact .sent [.monitor replyTo env.monitorRef] rfl rfl rfl rfl rfl rfl rfl

theorem rejectIssue_mails (reason : IssueError) (backendToken metadata : Term) (replyTo : Pid)
    (requestRef : Ref) (h : MirrorsExcept token s.leases (serialQueue s)) :
    ∃ s', rejectIssue env reason backendToken metadata replyTo requestRef token s = .noreply s' ∧
      Mails s (deferrals (some (.issue replyTo requestRef reason))) s' := by
  obtain ⟨s', hrelease⟩ := releaseEntry_some env (rejectedEntry env backendToken metadata)
    (s := { s with
      leases := s.leases.put token (rejectedEntry env backendToken metadata)
      leaseAgeIndex := insert (env.clock .issuedAt, token) s.leaseAgeIndex })
    (h.congr fun other hne => by simp [hne]) rfl false (some (.issue replyTo requestRef reason))
  have hmute : Mute s { s with
      leases := s.leases.put token (rejectedEntry env backendToken metadata)
      leaseAgeIndex := insert (env.clock .issuedAt, token) s.leaseAgeIndex } :=
    .fields rfl rfl rfl rfl rfl
  refine ⟨s', ?_, hmute.before (releaseEntry_mails hrelease)⟩
  unfold rejectedEntry at hrelease
  simp only [rejectIssue, hrelease]

/-- A commit that finds its reservation. -/
theorem commitIssue_replies (message : Message) (backendToken metadata : Term) (replyTo : Pid)
    (requestRef monitorRef : Ref) (hmute : Mute s s₁)
    (h : MirrorsExcept env.token s₁.leases (serialQueue s₁))
    (hasked : askedBy env s (.info message) = some (.issue requestRef))
    (hended : endedBy s (.info message) = none) (hjoined : joinedBy env (.info message) = none) :
    Replies env s (.info message)
      (commitIssue env backendToken metadata replyTo requestRef monitorRef s₁) := by
  unfold commitIssue
  split
  · next guard _ =>
      refine .answered (.reply replyTo requestRef (.issued (.ok _))) (hmute.trans ?_)
        (continueAfterGuardReply_live _ _) rfl rfl rfl hasked hended hjoined
      exact .fields rfl rfl rfl rfl rfl
  · next reason _ =>
      obtain ⟨s', hout, hmails⟩ := rejectIssue_mails (.abandonmentGuardFactoryFailed reason)
        backendToken metadata replyTo requestRef
        (s := dropProtocolMonitor s₁ monitorRef) (h.congr fun _ _ => rfl)
      rw [hout]
      exact .deferred ((hmute.trans (dropProtocolMonitor_mute monitorRef s₁)).before hmails) rfl rfl
        hasked hended hjoined

theorem handleCommitIssue_replies (h : Coupled s) (hfresh : s.leases.fetch env.token = none)
    (reservation : Ref) (backendToken : Term) (replyTo : Pid) (requestRef : Ref) :
    Replies env s (.info (.commitIssue reservation backendToken replyTo requestRef))
      (handleCommitIssue env reservation backendToken replyTo requestRef s) := by
  have corrupt (hnone : acceptedBy env s
      (.info (.commitIssue reservation backendToken replyTo requestRef)) = none) :
      Replies env s (.info (.commitIssue reservation backendToken replyTo requestRef))
        (.stop (.invalidOrExpiredIssueReservation reservation)
          (notify (.protocolCorruption reservation) s)) := by
    refine .still ⟨_, [], rfl, (notify_mute _ _).mails, ?_⟩ rfl (by simp [askedBy, hnone]) rfl rfl
    intro s' hs'
    cases hs'
  unfold handleCommitIssue
  split
  · next r hr =>
      split
      · next hmatch =>
          refine commitIssue_replies _ backendToken r.metadata replyTo requestRef r.monitorRef ?_ ?_
            ?_ rfl rfl
          · exact .fields rfl rfl rfl rfl rfl
          · exact h.mirrors.except (h.mirrors.jobless_of_none hfresh)
          · simp [askedBy, acceptedBy, hr, hmatch]
      · next hmatch => exact corrupt (by simp [acceptedBy, hr, hmatch])
  · next hr => exact corrupt (by simp [acceptedBy, hr])

theorem handleRetain_replies (token parentHolder childHolder : Ref) (replyTo : Pid)
    (requestRef : Ref) :
    Replies env s (.info (.retain token parentHolder childHolder replyTo requestRef))
      (handleRetain env token parentHolder childHolder replyTo requestRef s) := by
  have hcount : Mute s (s.updateCounter .retainRequests 1) := .fields rfl rfl rfl rfl rfl
  have refused (e : RetainError) :
      Replies env s (.info (.retain token parentHolder childHolder replyTo requestRef))
        (.noreply (replyRetain replyTo requestRef (.error e)
          (s.updateCounter .retainRequests 1))) :=
    .answered (.reply replyTo requestRef (.retained (.error e))) hcount rfl rfl rfl rfl rfl rfl rfl
  unfold handleRetain
  simp only
  split
  · exact refused _
  · unfold retainHolder
    split
    · next entry hentry =>
        split
        · split
          · exact refused _
          · split
            · exact refused _
            · split
              · next guard _ =>
                  refine .answered (.reply replyTo requestRef (.retained (.ok guard)))
                    (hcount.trans ?_) (continueAfterGuardReply_live _ _) rfl rfl rfl rfl rfl rfl
                  exact .sent [.monitor replyTo env.monitorRef] rfl rfl rfl rfl rfl rfl rfl
              · exact refused _
        · exact refused _
    · exact refused _

theorem handleConfirmIssue_ends (token requestRef : Ref) (s : State) :
    Ends s (handleConfirmIssue token requestRef s) := by
  unfold handleConfirmIssue
  split
  · next entry _ =>
      split
      · split
        · refine .live ((clearPendingIssue_mute entry s).trans ?_) rfl
          exact .fields rfl rfl rfl rfl rfl
        · exact .live (.refl s) rfl
      · exact .live (.refl s) rfl
  · exact .live (.refl s) rfl

theorem handleConfirmRetain_ends (token childHolder requestRef : Ref) (s : State) :
    Ends s (handleConfirmRetain token childHolder requestRef s) := by
  unfold handleConfirmRetain
  split
  · split
    · next monitorRef _ _ _ =>
        split
        · refine .live ?_ rfl
          exact .sent [.demonitor monitorRef] rfl rfl rfl rfl rfl rfl rfl
        · exact .live (.refl s) rfl
    · exact .live (.refl s) rfl
  · exact .live (.refl s) rfl

theorem handleCancelRetain_ends (env : Env) (token childHolder : Ref) (h : Coupled s) :
    Ends s (handleCancelRetain env token childHolder s) := by
  have hcount : Mute s (s.updateCounter .retainCancellations 1) := .fields rfl rfl rfl rfl rfl
  unfold handleCancelRetain
  simp only
  split
  · next entry hentry =>
      split
      · next hactive =>
          split
          · obtain ⟨sent, -, hclear⟩ :=
              clearPendingRetain_eq childHolder entry (s.updateCounter .retainCancellations 1)
            have hmute := hcount.trans (clearPendingRetain_mute childHolder entry _)
            rw [hclear] at hmute ⊢
            exact .before hmute
              (removeHolder_ends env childHolder (h.congr rfl rfl rfl) hentry hactive)
          · exact .live hcount rfl
      · exact .live hcount rfl
  · exact .live hcount rfl

theorem handleRelease_ends (env : Env) (token holder : Ref) (h : Coupled s)
    (hlisted : Listed s.releaseTombstones s.releaseTombstoneOrder) :
    Ends s (handleRelease env token holder s) := by
  have unclassified : Ends s (.noreply (s.updateCounter .unclassifiedReleases 1)) := by
    refine .live ?_ rfl
    exact .fields rfl rfl rfl rfl rfl
  unfold handleRelease
  split
  · refine .live ?_ rfl
    exact .fields rfl rfl rfl rfl rfl
  · refine .live ?_ rfl
    exact .fields rfl rfl rfl rfl rfl
  · split
    · next entry hentry =>
        split
        · next hactive =>
            split
            · exact retire_ends env .explicit holder h hlisted hentry hactive
            · exact unclassified
        · exact unclassified
    · exact unclassified

theorem handleAbandoned_ends (env : Env) (token holder : Ref) (h : Coupled s)
    (hlisted : Listed s.releaseTombstones s.releaseTombstoneOrder) :
    Ends s (handleAbandoned env token holder s) := by
  unfold handleAbandoned
  split
  · next entry hentry =>
      split
      · next hactive =>
          split
          · exact retire_ends env .abandoned holder h hlisted hentry hactive
          · exact .live (.refl s) rfl
      · exact .live (.refl s) rfl
  · exact .live (.refl s) rfl

theorem handleCancelIssue_ends (env : Env) (requestRef : Ref) (h : Coupled s) :
    Ends s (handleCancelIssue env requestRef s) := by
  unfold handleCancelIssue
  split
  · exact cancelPendingIssue_ends env _ h
  · exact .live (.refl s) rfl

theorem handleRetryRelease_ends (env : Env) (token generation : Ref) (h : Coupled s) :
    Ends s (handleRetryRelease env token generation s) := by
  unfold handleRetryRelease
  split
  · split
    · simp only
      have hmute : Mute s { s with retryTimers := s.retryTimers.delete token } :=
        .fields rfl rfl rfl rfl rfl
      split
      · next entry hentry =>
          split
          · next reason hfailed =>
              obtain ⟨s', hrelease⟩ := releaseEntry_some env entry
                (s := { s with retryTimers := s.retryTimers.delete token })
                (h.mirrors.except_failed hentry hfailed)
                (h.mirrors.no_holders hentry (by simp [hfailed])) true none
              rw [hrelease]
              exact .live (hmute.trans (releaseEntry_mails hrelease).mute) rfl
          · exact .live hmute rfl
      · exact .live hmute rfl
    · exact .live (.refl s) rfl
  · exact .live (.refl s) rfl

theorem handleProtocolDown_ends (env : Env) (monitorRef : Ref) (h : Coupled s) :
    Ends s (handleProtocolDown env monitorRef s) := by
  have hmute : Mute s { s with protocolMonitors := s.protocolMonitors.delete monitorRef } :=
    .fields rfl rfl rfl rfl rfl
  have hcoupled : Coupled { s with protocolMonitors := s.protocolMonitors.delete monitorRef } :=
    h.congr rfl rfl rfl
  unfold handleProtocolDown
  split
  · next target htarget =>
      simp only
      split
      · exact .before (hmute.trans (removeIssueReservation_mute _ _ _)) (stopOrContinue_ends env _)
      · exact .before (hmute.trans (removeIssueReservation_mute _ _ _)) (stopOrContinue_ends env _)
      · next token childHolder =>
          split
          · next entry hentry =>
              split
              · next hactive =>
                  exact .before hmute (removeHolder_ends env childHolder hcoupled hentry hactive)
              · exact .live hmute rfl
          · exact .live hmute rfl
      · exact .before hmute (cancelPendingIssue_ends env _ hcoupled)
  · exact .live (.refl s) rfl

theorem handleRetry_replies (h : Coupled s) (token : Ref) (caller : Caller) :
    Replies env s (.retry token caller) (handleRetry env token caller s) := by
  have hmute := cancelRetryTimer_mute token s
  obtain ⟨sent, -, heq⟩ := cancelRetryTimer_eq token s
  have refused (e : RetryError) : Replies env s (.retry token caller)
      (.reply (.retryError e) (cancelRetryTimer token s)) := by
    refine ⟨_, [.answer (.retry caller)], rfl,
      ⟨?_, ?_, ?_, rfl, rfl, rfl, by simp [Letter.dropped]⟩,
      Outcome.settled_of_live rfl⟩
    · rw [hmute.mail]
      exact .single .answer
    · rw [List.filterMap_append, hmute.answers]
      rfl
    · rw [hmute.drained]
      exact (List.append_nil _).symm
  unfold handleRetry
  simp only
  split
  · next entry hentry =>
      split
      · next reason hfailed =>
          have hentry₀ : s.leases.fetch token = some entry := by
            rw [heq] at hentry
            exact hentry
          obtain ⟨s', hrelease⟩ := releaseEntry_some env entry (s := cancelRetryTimer token s)
            (by rw [heq]; exact h.mirrors.except_failed hentry₀ hfailed)
            (h.mirrors.no_holders hentry₀ (by simp [hfailed])) true (some (.retry caller))
          rw [hrelease]
          exact .deferred (hmute.before (releaseEntry_mails hrelease)) rfl rfl rfl rfl rfl
      · exact refused _
      · exact refused _
      · exact refused _
  · exact refused _

/-- What is left of a drain once its waiter is in the room. -/
theorem handleDrain_ends (h : Coupled s) (replyTo : Pid) (requestRef : Ref) :
    Ends (s.waiting env replyTo requestRef) (handleDrain env replyTo requestRef s) := by
  unfold handleDrain
  simp only
  split
  · next token reason _ =>
      have hx : (s.waiting env replyTo requestRef).drainWaiters.fetch requestRef =
          some (replyTo, env.monitorRef) := by
        simp [State.waiting]
      refine ⟨_, [(requestRef, replyTo, env.monitorRef)], rfl, ?_, Outcome.settled_of_live rfl⟩
      exact replyDrainWaiter_mails (x := (requestRef, replyTo, env.monitorRef)) hx
        (.error (.releaseFailed token reason))
  · split
    · next hempty =>
        have hidle := drained?_idle (h.drained?_iff.mpr hempty)
        exact .drain env hidle.2.2.1 hidle.2.2.2 rfl rfl
    · exact .live (.refl _) rfl

/-- A new drain waiter, and whoever is answered with it. -/
theorem handleDrain_replies (h : Coupled s) (replyTo : Pid) (requestRef : Ref)
    (hwaiter : s.drainWaiters.fetch requestRef = none)
    (hmonitor : s.drainMonitors.fetch env.monitorRef = none) :
    Replies env s (.info (.drain replyTo requestRef)) (handleDrain env replyTo requestRef s) := by
  have hjoin : Mails s [.join (requestRef, replyTo, env.monitorRef)]
      (s.waiting env replyTo requestRef) := by
    refine ⟨.single (.join hwaiter hmonitor), ?_, ?_⟩ <;>
      rw [State.waiting, State.send, List.filterMap_append] <;> rfl
  exact .of hjoin (handleDrain_ends h replyTo requestRef) rfl rfl rfl rfl (by simp [Letter.dropped])

/-- The event that ends the running job. -/
theorem Replies.finish {job : RunningJob} {result : Finish} {durationNs : Nat} (hmute : Mute s s₁)
    (h : Coupled s₁) (hjob : s₁.releaseJob = some job) (hjob' : s.releaseJob = some job)
    (hresult : result ≠ .invalid) (hcall : callReplies event
      (finishReleaseJob env job.token job.generation result durationNs s₁) = [])
    (hasked : askedBy env s event = none) (hended : (endedBy s event).isSome = true)
    (hjoined : joinedBy env event = none) :
    Replies env s event (finishReleaseJob env job.token job.generation result durationNs s₁) := by
  obtain ⟨s₂, xs, hmails, hends⟩ := finishReleaseJob_ends env h hjob hresult durationNs
  obtain ⟨c, hc⟩ := Option.isSome_iff_exists.mp hended
  have hsettled : settledBy s event = job.toJob.deferred := by
    rw [settledBy, hc, hjob']
    rfl
  have hnone {α : Type} (f : Letter → Option α) (hreply : ∀ x, f (.reply x) = none)
      (hsettle : ∀ r, f (.settle r) = none) :
      (job.toJob.deferred.toList.map Letter.settle ++ xs.map Letter.reply).filterMap f = [] := by
    rw [List.filterMap_append, filterMap_reply xs hreply, List.append_nil, List.filterMap_map]
    exact List.filterMap_eq_nil_iff.mpr fun r _ => hsettle r
  refine .of (hmute.before hmails) hends hcall ?_ ?_ ?_ ?_
  · rw [hnone Letter.taken (fun _ => rfl) (fun _ => rfl), hasked]
    rfl
  · rw [List.filterMap_append, filterMap_reply xs fun _ => rfl, List.append_nil, List.filterMap_map,
      hsettled]
    exact List.filterMap_some
  · rw [hnone Letter.joined (fun _ => rfl) (fun _ => rfl), hjoined]
    rfl
  · rw [hnone Letter.dropped (fun _ => rfl) (fun _ => rfl)]
    simp

/-- Events the owner has no clause for: a call it does not know, and a result
that no callback result is normalized to. -/
def Faulty (s : State) (event : Event) : Prop :=
  event = .other ∨
    ∃ job result durationNs, s.releaseJob = some job ∧ result.finish = .invalid ∧
      event = .info (.releaseResult s.releaseExecutor job.token job.generation result durationNs)

theorem handleReleaseResult_replies (h : Coupled s) (executor : Pid) (token generation : Ref)
    (result : CallbackResult) (durationNs : Nat)
    (hfaulty : ¬Faulty s (.info (.releaseResult executor token generation result durationNs))) :
    Replies env s (.info (.releaseResult executor token generation result durationNs))
      (handleReleaseResult env executor token generation result durationNs s) := by
  have hcount : Mute s (s.updateCounter .malformedMessages 1) := .fields rfl rfl rfl rfl rfl
  unfold handleReleaseResult
  split
  · next hexecutor =>
      subst hexecutor
      by_cases hmatch :
        ∃ job, s.releaseJob = some job ∧ job.token = token ∧ job.generation = generation
      · obtain ⟨job, hjob, rfl, rfl⟩ := hmatch
        have hrun := serialQueue_running hjob
        obtain ⟨entry, hentry, hstatus, -⟩ := ((h.mirrors.mirror job.token).releasing _).mp hrun
        have hvalid : result.finish ≠ .invalid := fun hinvalid =>
          hfaulty (.inr ⟨job, result, durationNs, hjob, hinvalid, rfl⟩)
        refine .finish (.refl s) h hjob hjob hvalid rfl rfl ?_ rfl
        rw [endedBy_result hjob hentry hstatus]
        cases hr : result.finish with
        | ok value => rfl
        | error reason => rfl
        | invalid => exact absurd hr hvalid
      · have hended : endedBy s (.info
            (.releaseResult s.releaseExecutor token generation result durationNs)) = none := by
          refine Option.eq_none_iff_forall_ne_some.mpr fun c hc => ?_
          simp only [endedBy, if_true] at hc
          obtain ⟨job, _, hjob, htoken, hgeneration, -⟩ := closing_some hc
          exact hmatch ⟨job, hjob, htoken, hgeneration⟩
        refine .still (.live hcount ?_) rfl rfl hended rfl
        unfold finishReleaseJob
        split
        · next job entry hjob hentry =>
            rw [if_neg fun hc => hmatch ⟨job, hjob, hc.1, hc.2.1⟩]
            rfl
        · rfl
  · next hexecutor =>
      exact .still (.live (.refl s) rfl) rfl rfl (by simp [endedBy, hexecutor]) rfl

/-- The executor is down: the job it had is over, or there was none. -/
theorem handleReleaseExecutorDown_replies (h : Coupled s) (reason : Term)
    (hproducer : some s.releaseExecutorMonitor ≠ s.producerMonitor) :
    Replies env s (.info (.down (some s.releaseExecutorMonitor) reason))
      (handleReleaseExecutorDown env reason s) := by
  have hstart : Mute s (startReleaseExecutor env (s.updateCounter .releaseExecutorRestarts 1)) := by
    refine Mute.trans ?_ (startReleaseExecutor_mute env _)
    exact .fields rfl rfl rfl rfl rfl
  have hcoupled : Coupled (startReleaseExecutor env (s.updateCounter .releaseExecutorRestarts 1)) :=
    h.congr rfl rfl rfl
  unfold handleReleaseExecutorDown
  simp only
  split
  · next hjob =>
      have hjob' : s.releaseJob = none := hjob
      obtain ⟨s', hdispatch⟩ := dispatch_some env hcoupled.mirrors
      rw [hdispatch]
      refine .still (.live (hstart.trans (dispatch_mute hdispatch)) rfl) rfl rfl ?_ rfl
      simp [endedBy, hjob']
  · next job hjob =>
      have hjob' : s.releaseJob = some job := hjob
      have hrun := serialQueue_running hjob'
      obtain ⟨entry, hentry, hstatus, -⟩ := ((h.mirrors.mirror job.token).releasing _).mp hrun
      refine .finish hstart hcoupled hjob hjob' (by simp) rfl rfl ?_ rfl
      rw [endedBy_down hproducer hjob' hentry hstatus]
      rfl

theorem handleDown_replies (h : Coupled s) (hmail : s.mail.Sound) (monitorRef : Option Ref)
    (reason : Term) :
    Replies env s (.info (.down monitorRef reason)) (handleDown env monitorRef reason s) := by
  unfold handleDown
  split
  · next hproducer =>
      have hplain : Plain env s (.info (.down monitorRef reason)) :=
        plain_producer (.inr ⟨reason, by rw [hproducer]⟩)
      exact .still (beginProducerDrain_ends env s) rfl rfl hplain.2 rfl
  · next hproducer =>
      split
      · exact .still (.live (.refl s) rfl) rfl rfl rfl rfl
      · next monitorRef =>
          split
          · next hexecutor =>
              subst hexecutor
              exact handleReleaseExecutorDown_replies h reason hproducer
          · next hexecutor =>
              have hplain : Plain env s (.info (.down (some monitorRef) reason)) :=
                plain_down (.inr hexecutor)
              have hended := hplain.2
              split
              · exact .still (handleProtocolDown_ends env monitorRef h) rfl rfl hended rfl
              · split
                · next requestRef hm =>
                    obtain ⟨process, hx⟩ := (hmail monitorRef requestRef).mp hm
                    have hdrop :=
                      removeDrainWaiter_mails (x := (requestRef, process, monitorRef)) hx
                    refine .of hdrop (.live (.refl _) rfl) rfl rfl
                      (by rw [settledBy, hended]; rfl) rfl ?_
                    intro x hx
                    obtain rfl := List.mem_singleton.mp hx
                    exact .inr ⟨reason, rfl⟩
                · exact .still (.live (.refl s) rfl) rfl rfl hended rfl

/-- **Every callback answers what it owes**, unless it raises on a fault. -/
theorem handle_replies (h : Coupled s)
    (hlisted : Listed s.releaseTombstones s.releaseTombstoneOrder)
    (hmail : ∀ monitorRef reason, event = .info (.down monitorRef reason) → s.mail.Sound)
    (hfresh : s.leases.fetch env.token = none)
    (hjoin : ∀ x, joinedBy env event = some x →
      s.drainWaiters.fetch x.1 = none ∧ s.drainMonitors.fetch x.2.2 = none)
    (hfaulty : ¬Faulty s event) : Replies env s event (handle env event s) := by
  cases event with
  | close => exact .still (handleClose_ends env s) rfl rfl rfl rfl
  | retry token caller => exact handleRetry_replies h token caller
  | stats => exact .still (.live (.refl s) rfl) rfl rfl rfl rfl
  | other => exact absurd (.inl rfl) hfaulty
  | info message =>
      cases message with
      | reserveIssue metadata replyTo requestRef =>
          exact handleReserveIssue_replies metadata replyTo requestRef
      | commitIssue reservation backendToken replyTo requestRef =>
          exact handleCommitIssue_replies h hfresh reservation backendToken replyTo requestRef
      | cancelIssueReservation requestRef =>
          refine .still (.before (removeIssueReservation_mute requestRef s true) ?_) rfl rfl rfl rfl
          exact stopOrContinue_ends env _
      | abandoned token holder =>
          exact .still (handleAbandoned_ends env token holder h hlisted) rfl rfl rfl rfl
      | confirmIssue token requestRef =>
          exact .still (handleConfirmIssue_ends token requestRef s) rfl rfl rfl rfl
      | cancelIssue requestRef =>
        exact .still (handleCancelIssue_ends env requestRef h) rfl rfl rfl rfl
      | retain token parentHolder childHolder replyTo requestRef =>
          exact handleRetain_replies token parentHolder childHolder replyTo requestRef
      | confirmRetain token childHolder requestRef =>
          exact .still (handleConfirmRetain_ends token childHolder requestRef s) rfl rfl rfl rfl
      | cancelRetain token childHolder =>
          exact .still (handleCancelRetain_ends env token childHolder h) rfl rfl rfl rfl
      | release token holder =>
          exact .still (handleRelease_ends env token holder h hlisted) rfl rfl rfl rfl
      | drain replyTo requestRef =>
          obtain ⟨hwaiter, hmonitor⟩ := hjoin _ rfl
          exact handleDrain_replies h replyTo requestRef hwaiter hmonitor
      | cancelDrain requestRef =>
          show Replies env s _ (.noreply (removeDrainWaiter requestRef s))
          cases hx : s.drainWaiters.fetch requestRef with
          | none =>
              refine .still (.live ?_ rfl) rfl rfl rfl rfl
              rw [removeDrainWaiter, hx]
              exact .refl s
          | some x =>
              refine .of (removeDrainWaiter_mails (x := (requestRef, x)) hx)
                (.live (.refl _) rfl) rfl
                rfl rfl rfl ?_
              intro y hy
              obtain rfl := List.mem_singleton.mp hy
              exact .inl rfl
      | releaseResult executor token generation result durationNs =>
          exact handleReleaseResult_replies h executor token generation result durationNs hfaulty
      | retryRelease token generation =>
          exact .still (handleRetryRelease_ends env token generation h) rfl rfl rfl rfl
      | down monitorRef reason =>
          exact handleDown_replies h (hmail monitorRef reason rfl) monitorRef reason
      | exit process =>
          refine .still ?_ rfl rfl rfl rfl
          show Ends s (handleExit env process s)
          unfold handleExit
          split
          · exact beginProducerDrain_ends env s
          · exact .live (.refl s) rfl
      | malformed =>
          refine .still (.live ?_ rfl) rfl rfl rfl rfl
          exact .fields rfl rfl rfl rfl rfl
      | unknown => exact .still (.live (.refl s) rfl) rfl rfl rfl rfl

/-- A fault is what makes an owner raise. -/
theorem faulty_raises (env : Env) (h : Coupled s) (hfaulty : Faulty s event) :
    handle env event s = .raise := by
  rcases hfaulty with rfl | ⟨job, result, durationNs, hjob, hresult, rfl⟩
  · rfl
  · obtain ⟨entry, hentry, hstatus, -⟩ :=
      ((h.mirrors.mirror job.token).releasing _).mp (serialQueue_running hjob)
    have hstatus' : entry.status.releasing? = some job.generation := by
      rw [hstatus]
      rfl
    show handleReleaseResult env s.releaseExecutor job.token job.generation result durationNs s =
      .raise
    simp only [handleReleaseResult, if_true, finishReleaseJob, hjob, hentry, hstatus', and_self,
      hresult, settle]

/-! ## Histories -/

/-- A callback that was run, and the states around it. -/
structure Handled where
  /-- The state before. -/
  pre : State
  /-- The event, and what the runtime answers. -/
  input : Input
  /-- The state after. -/
  post : State

/-- A visit as a log entry. -/
def Handled.of (v : Visit Owner Input) : Handled := ⟨v.pre.state, v.input, v.post.state⟩

/-- What a run handled and its last state, and whether the owner has stopped
normally with it. -/
inductive Owner.Life : Bool → List Handled → State → Prop where
  | run {visits o} (h : Owner.Run visits o) : Owner.Life false (visits.map .of) o.state
  | stop {visits o i s} (h : Owner.Run visits o) (hfresh : o.supply ≤ i.env.supply)
      (hstop : (outcome o.state i).stopped? = some (.normal, s)) :
      Owner.Life true (visits.map .of ++ [⟨o.state, i, s⟩]) s

/-- The request a callback took. -/
def askedIn (k : Handled) : Option Request := askedBy k.input.env k.pre k.input.event

/-- The requests a callback answered: by a message, or by the reply of its call. -/
def answeredIn (k : Handled) : List Request :=
  (k.post.sent ++ callReplies k.input.event (outcome k.pre k.input)).filterMap Signal.answers

/-- The drain waiter a callback took. -/
def joinedIn (k : Handled) : Option DrainWaiter := joinedBy k.input.env k.input.event

/-- The drain requests a callback answered. -/
def drainedIn (k : Handled) : List Ref := k.post.sent.filterMap Signal.drained

/-- The letters of a history. -/
structure Delivered (log : List Handled) (letters : List Letter) (s : State) : Prop where
  /-- The letters lead from nothing owed to the state. -/
  trace : Trace Mail.Step ⟨[], ∅, ∅⟩ letters s.mail
  /-- The letters answer the requests the log answers. -/
  answered : letters.filterMap Letter.answered = log.flatMap answeredIn
  /-- They answer the drain waiters the log answers. -/
  drained : (letters.filterMap Letter.replied).map Prod.fst = log.flatMap drainedIn
  /-- They take the requests the log asks. -/
  taken : letters.filterMap Letter.taken = log.filterMap askedIn
  /-- They let the drains wait that the log begins. -/
  joined : letters.filterMap Letter.joined = log.filterMap joinedIn
  /-- They drop a waiter only where the log takes it away. -/
  dropped : ∀ x ∈ letters.filterMap Letter.dropped, ∃ k ∈ log, Leaves k.input.event x

variable {log : List Handled} {letters letters' : List Letter} {k : Handled}

theorem Delivered.snoc (h : Delivered log letters k.pre)
    (hc : Corresponds k.input.env { k.pre with sent := [] } k.input.event (outcome k.pre k.input)
      letters' k.post) : Delivered (log ++ [k]) (letters ++ letters') k.post := by
  refine ⟨h.trace.append hc.trace, ?_, ?_, ?_, ?_, fun x hx => ?_⟩
  · rw [List.filterMap_append, h.answered, List.flatMap_append, List.flatMap_singleton]
    exact congrArg _ hc.answers.symm
  · rw [List.filterMap_append, List.map_append, h.drained, List.flatMap_append,
      List.flatMap_singleton]
    exact congrArg _ hc.drained.symm
  · rw [List.filterMap_append, h.taken, List.filterMap_append, filterMap_one, hc.taken]
    rfl
  · rw [List.filterMap_append, h.joined, List.filterMap_append, filterMap_one, hc.joined]
    rfl
  · rw [List.filterMap_append, List.mem_append] at hx
    rcases hx with hx | hx
    · obtain ⟨j, hj, hleaves⟩ := h.dropped x hx
      exact ⟨j, List.mem_append.mpr (.inl hj), hleaves⟩
    · exact ⟨k, List.mem_append.mpr (.inr (List.mem_singleton_self k)), hc.dropped x hx⟩

/-- What was taken was answered or is due. -/
theorem letters_balance (letters : List Letter) :
    (letters.filterMap Letter.answered : Multiset Request) +
        (letters.filterMap Letter.deferred : Multiset Request) =
      (letters.filterMap Letter.taken : Multiset Request) +
        (letters.filterMap Letter.settled : Multiset Request) := by
  induction letters with
  | nil => rfl
  | cons letter letters ih =>
      have hone : ((letter.answered).toList : Multiset Request) + (letter.deferred).toList =
          ((letter.taken).toList : Multiset Request) + (letter.settled).toList := by
        cases letter <;> simp [Letter.answered, Letter.deferred, Letter.taken, Letter.settled]
      simp only [Multiset.coe_filterMap_cons]
      rw [add_add_add_comm, ih, hone, add_add_add_comm]

theorem Delivered.due (h : Delivered log letters s) :
    (log.flatMap answeredIn : Multiset Request) + (s.deferred : Multiset Request) =
      (log.filterMap askedIn : List Request) := by
  have hdue := Mail.due_trace h.trace
  have hbalance := letters_balance letters
  have hnil : (Mail.due ⟨[], ∅, ∅⟩) = 0 := rfl
  rw [hnil, zero_add] at hdue
  rw [← hdue, h.answered, h.taken] at hbalance
  have hcancel : (log.flatMap answeredIn : Multiset Request) + s.mail.due +
      (letters.filterMap Letter.settled : Multiset Request) =
        ((log.filterMap askedIn : List Request) : Multiset Request) +
          (letters.filterMap Letter.settled : Multiset Request) := by
    rw [add_assoc]
    exact hbalance
  exact add_right_cancel hcancel

theorem letters_left (letters : List Letter) :
    (letters.filterMap Letter.left : Multiset DrainWaiter) =
      (letters.filterMap Letter.replied : Multiset DrainWaiter) +
        (letters.filterMap Letter.dropped : Multiset DrainWaiter) := by
  induction letters with
  | nil => rfl
  | cons letter letters ih =>
      have hone : ((letter.left).toList : Multiset DrainWaiter) =
          ((letter.replied).toList : Multiset DrainWaiter) + (letter.dropped).toList := by
        cases letter <;> simp [Letter.left, Letter.replied, Letter.dropped]
      simp only [Multiset.coe_filterMap_cons]
      rw [ih, hone, add_add_add_comm]

theorem Delivered.room (h : Delivered log letters s) :
    (s.drainWaiters.entries : Multiset DrainWaiter) +
        ((letters.filterMap Letter.replied : Multiset DrainWaiter) +
          (letters.filterMap Letter.dropped : Multiset DrainWaiter)) =
      (log.filterMap joinedIn : List DrainWaiter) := by
  have hroom := Mail.room_trace h.trace
  have hnil : (Mail.room ⟨[], ∅, ∅⟩) = 0 := rfl
  rw [hnil, zero_add, letters_left, h.joined] at hroom
  exact hroom

variable {o o' : Owner} {i : Input} {visits : List (Visit Owner Input)}

theorem init_mail {self : Pid} {opts : Options} (h : init env self opts = .ok s) :
    s.mail = ⟨[], ∅, ∅⟩ := by
  unfold init at h
  split at h
  · cases h
  · split at h
    · cases h
    · split at h
      · cases h
      · cases h
        rfl

/-- The monitors of the drain waiters that came are in use. -/
theorem Owner.Run.joined_lt (h : Owner.Run visits o) :
    ∀ x ∈ (visits.map Handled.of).filterMap joinedIn, x.2.2 < o.supply := by
  refine h.history (P := fun visits o =>
    ∀ x ∈ (visits.map Handled.of).filterMap joinedIn, x.2.2 < o.supply) (by simp) ?_
  intro visits o i o' hrun ih hst x hx
  rw [List.map_append, List.filterMap_append, List.mem_append] at hx
  rcases hx with hx | hx
  · exact Nat.lt_of_lt_of_le (ih x hx) hst.supply_le
  · rw [List.map_singleton, filterMap_one, Option.mem_toList] at hx
    have hmade := (hst.made (k := 1) (by omega)).2
    have hmonitor : x.2.2 = i.env.monitorRef := by
      simp only [joinedIn, Handled.of] at hx
      unfold joinedBy at hx
      split at hx
      · cases hx
        rfl
      · cases hx
    rw [hmonitor]
    exact hmade

theorem Owner.Run.token_new (h : Owner.Run visits o) (hfresh : o.supply ≤ i.env.supply) :
    o.state.leases.fetch i.env.token = none := by
  refine Option.eq_none_iff_forall_ne_some.mpr fun entry hentry => ?_
  have hlt : i.env.token < o.supply :=
    h.sound.token (i.env.token, entry.backendToken) (mem_books.mpr ⟨entry, hentry, rfl⟩)
  have hge : o.supply ≤ i.env.token := Nat.le_add_right_of_le hfresh
  exact Nat.not_lt.mpr hge hlt

/-- The next callback corresponds, when its drain waiter is new. -/
theorem Owner.Run.corresponds (h : Owner.Run visits o) (hmail : o.state.mail.Sound)
    (hd : Delivered (visits.map .of) letters o.state)
    (hdrains : (((visits.map Handled.of ++ [(⟨o.state, i, s⟩ : Handled)]).filterMap joinedIn).map
      Prod.fst).Nodup)
    (hfresh : o.supply ≤ i.env.supply) (hstate : (outcome o.state i).state? = some s) :
    ∃ letters', Corresponds i.env { o.state with sent := [] } i.event
      (outcome o.state i) letters' s ∧
      (outcome o.state i).Settled := by
  have hcoupled : Coupled { o.state with sent := [] } := h.sound.coupled.congr rfl rfl rfl
  have hjoin : ∀ x, joinedBy i.env i.event = some x →
      o.state.drainWaiters.fetch x.1 = none ∧ o.state.drainMonitors.fetch x.2.2 = none := by
    intro x hx
    -- Who is in the room has joined before.
    have hroom : ∀ y : DrainWaiter, o.state.drainWaiters.fetch y.1 = some y.2 →
        y ∈ (visits.map Handled.of).filterMap joinedIn := by
      intro y hy
      rw [← Multiset.mem_coe, ← hd.room, Multiset.mem_add]
      exact .inl (FMap.mem_entries.mpr hy)
    rw [List.filterMap_append, List.map_append, List.nodup_append] at hdrains
    have hnew : ∀ y ∈ (visits.map Handled.of).filterMap joinedIn, y.1 ≠ x.1 := by
      intro y hy
      refine hdrains.2.2 y.1 (List.mem_map.mpr ⟨y, hy, rfl⟩) x.1 (List.mem_map.mpr ⟨x, ?_, rfl⟩)
      rw [filterMap_one, Option.mem_toList]
      exact hx
    refine ⟨?_, ?_⟩
    · refine Option.eq_none_iff_forall_ne_some.mpr fun v hv => ?_
      exact hnew (x.1, v) (hroom (x.1, v) hv) rfl
    · refine Option.eq_none_iff_forall_ne_some.mpr fun requestRef hm => ?_
      obtain ⟨process, hprocess⟩ := (hmail _ _).mp hm
      have hlt : x.2.2 < o.supply :=
        h.joined_lt (requestRef, process, x.2.2) (hroom (requestRef, process, x.2.2) hprocess)
      have hge : o.supply ≤ x.2.2 := by
        unfold joinedBy at hx
        split at hx
        · cases hx
          exact Nat.le_add_right_of_le hfresh
        · cases hx
      exact Nat.not_lt.mpr hge hlt
  have hfaulty : ¬Faulty { o.state with sent := [] } i.event := fun hf => by
    rw [outcome, faulty_raises i.env hcoupled hf] at hstate
    cases hstate
  obtain ⟨s', letters', hstate', hc, hsettled⟩ :=
    handle_replies hcoupled h.tally_sound.listed (fun _ _ _ => hmail) (h.token_new hfresh) hjoin
      hfaulty
  have hsame : some s' = some s := hstate'.symm.trans hstate
  cases hsame
  exact ⟨letters', hc, hsettled⟩

theorem Owner.Run.delivered (h : Owner.Run visits o)
    (hdrains : (((visits.map Handled.of).filterMap joinedIn).map Prod.fst).Nodup) :
    o.state.mail.Sound ∧ ∃ letters, Delivered (visits.map .of) letters o.state := by
  refine h.history (P := fun visits o =>
    (((visits.map Handled.of).filterMap joinedIn).map Prod.fst).Nodup →
      o.state.mail.Sound ∧ ∃ letters, Delivered (visits.map .of) letters o.state) ?_ ?_ hdrains
  · rintro o ⟨env, self, opts, hinit, -⟩ -
    rw [init_mail hinit]
    refine ⟨fun _ _ => by simp, [], ?_, rfl, rfl, rfl, rfl, by simp⟩
    rw [init_mail hinit]
    exact .nil
  · intro visits o i o' hrun ih hst hdrains
    rw [List.map_append] at hdrains ⊢
    have hold : (((visits.map Handled.of).filterMap joinedIn).map Prod.fst).Nodup := by
      rw [List.filterMap_append, List.map_append] at hdrains
      exact (List.nodup_append.mp hdrains).1
    obtain ⟨hmail, letters, hd⟩ := ih hold
    obtain ⟨letters', hc, -⟩ := hrun.corresponds hmail hd hdrains hst.fresh
      (Outcome.state_of_live hst.live)
    have hall := Delivered.snoc (k := ⟨o.state, i, o'.state⟩) hd hc
    refine ⟨?_, letters ++ letters', hall⟩
    exact hc.trace.invariant (fun _ _ _ hs hst => hst.sound hs) hmail

/-! ## One reply -/

variable {stopped : Bool}

theorem Outcome.state_of_stopped {reason : StopReason} (h : out.stopped? = some (reason, s)) :
    out.state? = some s := by
  cases out <;> simp [Outcome.stopped?] at h <;> rw [← h.2] <;> rfl

theorem Owner.Life.delivered (h : Owner.Life stopped log s)
    (hdrains : ((log.filterMap joinedIn).map Prod.fst).Nodup) :
    (∃ letters, Delivered log letters s) ∧
      (stopped = true → s.drainWaiters.entries = [] ∧ s.deferred = []) := by
  cases h with
  | run h => exact ⟨(h.delivered hdrains).2, by simp⟩
  | @stop visits o i s h hfresh hstop =>
      have hold : (((visits.map Handled.of).filterMap joinedIn).map Prod.fst).Nodup := by
        rw [List.filterMap_append, List.map_append] at hdrains
        exact (List.nodup_append.mp hdrains).1
      obtain ⟨hmail, letters, hd⟩ := h.delivered hold
      obtain ⟨letters', hc, hsettled⟩ := h.corresponds hmail hd hdrains hfresh
        (Outcome.state_of_stopped hstop)
      exact ⟨⟨_, Delivered.snoc (k := ⟨o.state, i, s⟩) hd hc⟩, fun _ => hsettled s hstop⟩

/-- Each callback of a history was run by an owner that had run those before. -/
theorem Owner.Life.split (h : Owner.Life stopped log s) (hk : k ∈ log) :
    ∃ visits o after, log = visits.map .of ++ k :: after ∧ Owner.Run visits o ∧ o.state = k.pre ∧
      o.supply ≤ k.input.env.supply ∧ (outcome k.pre k.input).state? = some k.post := by
  have run {visits : List (Visit Owner Input)} {o : Owner} (h : Owner.Run visits o) {k : Handled}
      (hk : k ∈ visits.map Handled.of) :
      ∃ visits' o' after, visits.map Handled.of = visits'.map .of ++ k :: after ∧
        Owner.Run visits' o' ∧ o'.state = k.pre ∧ o'.supply ≤ k.input.env.supply ∧
        (outcome k.pre k.input).state? = some k.post := by
    obtain ⟨v, hv, rfl⟩ := List.mem_map.mp hk
    obtain ⟨o₀, hinit, hpath⟩ := h
    obtain ⟨before, after, rfl, hbefore, hst, -⟩ := hpath.mem_split hv
    exact ⟨before, v.pre, after.map .of, by simp, ⟨o₀, hinit, hbefore⟩, rfl, hst.fresh,
      Outcome.state_of_live hst.live⟩
  cases h with
  | run h => exact run h hk
  | @stop visits o i s h hfresh hstop =>
      rcases List.mem_append.mp hk with hk | hk
      · obtain ⟨visits', o', after, heq, hfacts⟩ := run h hk
        exact ⟨visits', o', after ++ [⟨o.state, i, s⟩], by simp [heq], hfacts⟩
      · obtain rfl := List.mem_singleton.mp hk
        exact ⟨visits, o, [], rfl, h, rfl, hfresh, Outcome.state_of_stopped hstop⟩

theorem eq_of_filterMap_nodup {α β : Type} {f : α → Option β} {l : List α} {a b : α} {c : β}
    (h : (l.filterMap f).Nodup) (ha : a ∈ l) (hb : b ∈ l) (hfa : f a = some c)
    (hfb : f b = some c) : a = b := by
  induction l with
  | nil => cases ha
  | cons d l ih =>
      have hmem : ∀ e ∈ l, f e = some c → c ∈ l.filterMap f := fun e he hfe =>
        List.mem_filterMap.mpr ⟨e, he, hfe⟩
      have hrest : (l.filterMap f).Nodup := by
        cases hd : f d with
        | none => rwa [List.filterMap_cons_none hd] at h
        | some x =>
            rw [List.filterMap_cons_some hd] at h
            exact (List.nodup_cons.mp h).2
      have hfirst : ∀ e ∈ l, f e = some c → f d ≠ some c := fun e he hfe hfd => by
        rw [List.filterMap_cons_some hfd] at h
        exact (List.nodup_cons.mp h).1 (hmem e he hfe)
      rcases List.mem_cons.mp ha with rfl | ha'
      · rcases List.mem_cons.mp hb with rfl | hb'
        · rfl
        · exact absurd hfa (hfirst b hb' hfb)
      · rcases List.mem_cons.mp hb with rfl | hb'
        · exact absurd hfb (hfirst a ha' hfa)
        · exact ih hrest ha' hb'

theorem jobs_attempted (s : State) : (serialQueue s).jobs = s.jobs.map Job.attempted := by
  simp only [SerialQueue.jobs, serialQueue, State.jobs, List.map_append]
  cases s.releaseJob <;> rfl

/-- The job an event ends. -/
theorem settledBy_job (h : Coupled s) {job : Job} {r : Request} (hjob : job ∈ s.jobs)
    (hr : job.deferred = some r) (hnodup : s.deferred.Nodup) :
    settledBy s event = some r ↔
      ∃ c, endedBy s event = some c ∧ c.token = job.token ∧ c.generation = job.generation := by
  have hexclusive : (s.jobs.map Job.token).Nodup := by
    have hx := h.mirrors.exclusive
    rw [SerialQueue.Exclusive, jobs_attempted, List.map_map] at hx
    exact hx
  have running : ∀ c, endedBy s event = some c → ∃ running : RunningJob,
      s.releaseJob = some running ∧ running.toJob ∈ s.jobs ∧ running.token = c.token ∧
        running.generation = c.generation := by
    intro c hc
    obtain ⟨running, _, hrunning, htoken, hgeneration, -⟩ := endedBy_running hc
    exact ⟨running, hrunning, by simp [State.jobs, hrunning], htoken, hgeneration⟩
  constructor
  · intro hsettled
    obtain ⟨c, hc, hdeferred⟩ := Option.bind_eq_some_iff.mp hsettled
    obtain ⟨running, hrunning, hmem, htoken, hgeneration⟩ := running c hc
    rw [hrunning] at hdeferred
    obtain rfl := eq_of_filterMap_nodup hnodup hmem hjob hdeferred hr
    exact ⟨c, hc, htoken.symm, hgeneration.symm⟩
  · rintro ⟨c, hc, htoken, hgeneration⟩
    obtain ⟨running, hrunning, hmem, htoken', -⟩ := running c hc
    have heq : running.toJob = job :=
      List.inj_on_of_nodup_map hexclusive hmem hjob (htoken'.trans htoken)
    rw [settledBy, hc, hrunning]
    simp only [Option.bind_some, heq, hr]

/-- What a deferred request sees of a callback. -/
theorem Corresponds.deferred {r : Request}
    (h : Corresponds env { s with sent := [] } event out letters s')
    (hr : r ∈ s.deferred) (hnew : askedBy env { s with sent := [] } event ≠ some r) :
    (r ∈ (s'.sent ++ callReplies event out).filterMap Signal.answers ↔
        settledBy s event = some r) ∧
      (settledBy s event ≠ some r → r ∈ s'.deferred) := by
  have hsettled : ∀ q, q ∈ letters.filterMap Letter.settled ↔ settledBy s event = some q := by
    intro q
    rw [h.settled, Option.mem_toList]
    rfl
  have hanswered :
    r ∈ letters.filterMap Letter.answered ↔ r ∈ letters.filterMap Letter.settled := by
    have htaken : r ∉ letters.filterMap Letter.taken := by
      rw [h.taken, Option.mem_toList]
      exact hnew
    simp only [List.mem_filterMap] at htaken ⊢
    constructor
    · rintro ⟨letter, hletter, hl⟩
      cases letter with
      | answer q => exact absurd ⟨_, hletter, hl⟩ htaken
      | settle q => exact ⟨_, hletter, hl⟩
      | _ => cases hl
    · rintro ⟨letter, hletter, hl⟩
      cases letter with
      | settle q => exact ⟨_, hletter, hl⟩
      | _ => cases hl
  refine ⟨?_, fun hne => ?_⟩
  · rw [h.answers, List.filterMap_nil, List.nil_append, hanswered, hsettled]
  · have hdue := Mail.due_trace h.trace
    have hmem : r ∈ s'.mail.due + (letters.filterMap Letter.settled : Multiset Request) := by
      rw [hdue, Multiset.mem_add]
      exact .inl hr
    rcases Multiset.mem_add.mp hmem with hmem | hmem
    · exact hmem
    · exact absurd ((hsettled r).mp hmem) hne

/-- **Exactly one reply.**  When no request is made twice, every request a run
took was answered once or is still deferred to one job; a deferred answer is
sent exactly when the event ends that job; no drain waiter is answered twice; and
an owner that has stopped normally owes nothing to anybody but the drain waiters
that cancelled or died.  A log has the callbacks that return; by `handle_replies` a
callback returns, and answers what it owes, unless the event is `Faulty`. -/
theorem exactly_one_reply (h : Owner.Life stopped log s) (hasked : (log.filterMap askedIn).Nodup)
    (hdrains : ((log.filterMap joinedIn).map Prod.fst).Nodup) :
    (∀ r ∈ log.filterMap askedIn, (log.flatMap answeredIn).count r + s.deferred.count r = 1) ∧
      (∀ k ∈ log, ∀ job ∈ k.pre.jobs, ∀ r, job.deferred = some r →
        (r ∈ answeredIn k ↔ ∃ c, endedBy k.pre k.input.event = some c ∧ c.token = job.token ∧
            c.generation = job.generation) ∧
          (r ∉ answeredIn k → r ∈ k.post.deferred)) ∧
      (∀ x ∈ log.filterMap joinedIn, (log.flatMap drainedIn).count x.1 ≤ 1) ∧
      (stopped = true →
        (∀ r ∈ log.filterMap askedIn, (log.flatMap answeredIn).count r = 1) ∧
          ∀ x ∈ log.filterMap joinedIn, (log.flatMap drainedIn).count x.1 = 1 ∨
            ∃ k ∈ log, Leaves k.input.event x) := by
  obtain ⟨⟨letters, hd⟩, hend⟩ := h.delivered hdrains
  have hcount : ∀ r ∈ log.filterMap askedIn,
      (log.flatMap answeredIn).count r + s.deferred.count r = 1 := by
    intro r hr
    have hdue := congrArg (Multiset.count r) hd.due
    rw [Multiset.count_add, Multiset.coe_count, Multiset.coe_count, Multiset.coe_count,
      List.count_eq_one_of_mem hasked hr] at hdue
    exact hdue
  have hreplied : (letters.filterMap Letter.replied : Multiset DrainWaiter) ≤
      (log.filterMap joinedIn : List DrainWaiter) := by
    rw [← hd.room, ← add_assoc, add_right_comm]
    exact Multiset.le_add_left _ _
  have hnodup : (log.flatMap drainedIn).Nodup := by
    rw [← hd.drained]
    have hle := Multiset.map_le_map (f := Prod.fst) hreplied
    exact Multiset.coe_nodup.mp (Multiset.nodup_of_le hle (Multiset.coe_nodup.mpr hdrains))
  refine ⟨hcount, ?_, fun x _ => List.nodup_iff_count_le_one.mp hnodup x.1, fun hstop => ⟨?_, ?_⟩⟩
  · intro k hk job hjob r hr
    obtain ⟨visits, o, after, hlog, hrun, hpre, hfresh, hstate⟩ := h.split hk
    have hbefore : ((((visits.map Handled.of) ++ [k]).filterMap joinedIn).map Prod.fst).Nodup := by
      rw [hlog, List.append_cons, List.filterMap_append, List.map_append] at hdrains
      exact (List.nodup_append.mp hdrains).1
    have hold := hbefore
    rw [List.filterMap_append, List.map_append] at hold
    obtain ⟨hmail, letters₀, hd₀⟩ := hrun.delivered (List.nodup_append.mp hold).1
    obtain ⟨pre, input, post⟩ := k
    subst hpre
    obtain ⟨letters₁, hc, -⟩ := hrun.corresponds hmail hd₀ hbefore hfresh hstate
    have hcoupled : Coupled o.state := hrun.sound.coupled
    have hdeferred : r ∈ o.state.deferred := List.mem_filterMap.mpr ⟨job, hjob, hr⟩
    -- What is deferred was asked before, so it is not asked again.
    have hdue := hd₀.due
    have hmem : r ∈ (visits.map Handled.of).filterMap askedIn := by
      rw [← Multiset.mem_coe, ← hdue, Multiset.mem_add]
      exact .inr hdeferred
    rw [hlog, List.filterMap_append, List.nodup_append] at hasked
    have hnew : askedIn ⟨o.state, input, post⟩ ≠ some r := fun ha => by
      refine hasked.2.2 r hmem r ?_ rfl
      rw [List.filterMap_cons_some ha]
      exact List.mem_cons_self
    have hdeferredNodup : o.state.deferred.Nodup := by
      have hle : (o.state.deferred : Multiset Request) ≤
          ((visits.map Handled.of).filterMap askedIn : List Request) := by
        rw [← hdue]
        exact Multiset.le_add_left _ _
      exact Multiset.coe_nodup.mp
        (Multiset.nodup_of_le hle (Multiset.coe_nodup.mpr hasked.1))
    obtain ⟨hiff, hkeep⟩ := hc.deferred hdeferred hnew
    have hsettled : settledBy o.state input.event = some r ↔ _ :=
      settledBy_job hcoupled hjob hr hdeferredNodup
    exact ⟨hiff.trans hsettled, fun hno => hkeep fun hyes => hno (hiff.mpr hyes)⟩
  · intro r hr
    have hone := hcount r hr
    rw [(hend hstop).2] at hone
    exact hone
  · intro x hx
    have hroom := hd.room
    rw [(hend hstop).1, Multiset.coe_nil, zero_add] at hroom
    rw [← Multiset.mem_coe, ← hroom, Multiset.mem_add] at hx
    rcases hx with hx | hx
    · refine .inl (List.count_eq_one_of_mem hnodup ?_)
      rw [← hd.drained]
      exact List.mem_map.mpr ⟨x, hx, rfl⟩
    · exact .inr (hd.dropped x hx)

/-- The requests of the sample run's first callbacks are each answered once or
still deferred. -/
theorem exactly_one_reply_sample : ∃ log s, Owner.Life false log s ∧
    (log.filterMap askedIn).length = 2 ∧
    ∀ r ∈ log.filterMap askedIn, (log.flatMap answeredIn).count r + s.deferred.count r = 1 := by
  exact ⟨_, _, .run (sampleRun_run (n := 2) rfl), by decide,
    (exactly_one_reply (.run (sampleRun_run (n := 2) rfl)) (by decide) (by decide)).1⟩

end VideoInterop.LeaseOwner
