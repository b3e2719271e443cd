import VideoInterop.LeaseOwner.Bookkeeping

/-!
# Rejected and stale requests

A request that is refused, and a message about something the owner does not know
any more, leave the state alone but for the counters of such messages.  Several
handlers act before they look: a retry cancels the timer, a cancelled retain
drops its pending entry, a DOWN pops its monitor.  That nothing is lost by it is
a matter of the invariants: only a failed lease has a timer, and only a holder
has a pending retain.
-/

namespace VideoInterop.LeaseOwner

/-- The counter of a release that finds no holder, by the tombstone it finds. -/
def unheldCounter : Option Classification → CounterKey
  | some .abandoned => .lateReleasesAfterAbandonment
  | some .explicit => .duplicateReleases
  | none => .unclassifiedReleases

/-- What the retain of a child by a parent can be refused for. -/
def RetainRefused (env : Env) (s : State) (token parent child : Ref) : Prop :=
  s.mode = .draining ∨ s.leases.fetch token = none ∨
    (∃ entry, s.leases.fetch token = some entry ∧
      (entry.status ≠ .active ∨ parent ∉ entry.holders ∨ child ∈ entry.holders)) ∨
    ∃ reason, createAbandonmentGuard env s.abandonmentGuardFactory = .error reason

/-- An active lease without the holder, whose cancelled retain counts as a
duplicate release. -/
def CountsDuplicate (s : State) (token holder : Ref) : Prop :=
  ∃ entry, s.leases.fetch token = some entry ∧ entry.status = .active ∧
    some holder ≠ entry.rootHolder ∧ holder ∉ entry.holders

/-- The requests that are refused, the messages that are stale, and the counters
they count in. -/
inductive Rejected (env : Env) (s : State) : Event → List CounterKey → Prop where
  | reserve {metadata replyTo requestRef}
      (h : s.mode = .draining ∨ capacityAvailable? s = false) :
      Rejected env s (.info (.reserveIssue metadata replyTo requestRef)) []
  | retain {token parent child replyTo requestRef} (h : RetainRefused env s token parent child) :
      Rejected env s (.info (.retain token parent child replyTo requestRef)) [.retainRequests]
  | retry {token caller} (h : ¬Roster.Failed s.leases token) :
      Rejected env s (.retry token caller) []
  | confirmIssue {token requestRef} (h : s.pendingIssues.fetch requestRef ≠ some token) :
      Rejected env s (.info (.confirmIssue token requestRef)) []
  | cancelIssue {requestRef} (h : s.pendingIssues.fetch requestRef = none) :
      Rejected env s (.info (.cancelIssue requestRef)) []
  | confirmRetain {token child requestRef}
      (h : ∀ entry monitorRef, s.leases.fetch token = some entry →
        entry.pendingRetains.fetch child ≠ some (monitorRef, requestRef)) :
      Rejected env s (.info (.confirmRetain token child requestRef)) []
  | cancelRoot {token root entry} (hentry : s.leases.fetch token = some entry)
      (hroot : entry.rootHolder = some root) :
      Rejected env s (.info (.cancelRetain token root)) [.retainCancellations]
  | cancelRetain {token child} (h : (token, child) ∉ registeredOf s.leases)
      (hcounts : ¬CountsDuplicate s token child) :
      Rejected env s (.info (.cancelRetain token child)) [.retainCancellations]
  | cancelDuplicate {token child} (h : (token, child) ∉ registeredOf s.leases)
      (hcounts : CountsDuplicate s token child) :
      Rejected env s (.info (.cancelRetain token child)) [.retainCancellations, .duplicateReleases]
  | abandoned {token holder} (h : (token, holder) ∉ registeredOf s.leases) :
      Rejected env s (.info (.abandoned token holder)) []
  | release {token holder} (h : (token, holder) ∉ registeredOf s.leases) :
      Rejected env s (.info (.release token holder))
        [unheldCounter (s.releaseTombstones.fetch (token, holder))]
  | staleTimer {token generation}
      (h : ∀ timer, s.retryTimers.fetch token = some timer → timer.generation ≠ generation) :
      Rejected env s (.info (.retryRelease token generation)) []
  | staleDown {monitorRef reason} (hproducer : some monitorRef ≠ s.producerMonitor)
      (hexecutor : monitorRef ≠ s.releaseExecutorMonitor)
      (hprotocol : s.protocolMonitors.fetch monitorRef = none)
      (hdrain : s.drainMonitors.fetch monitorRef = none) :
      Rejected env s (.info (.down (some monitorRef) reason)) []
  | cancelDrain {requestRef} (h : s.drainWaiters.fetch requestRef = none) :
      Rejected env s (.info (.cancelDrain requestRef)) []
  | malformed : Rejected env s (.info .malformed) [.malformedMessages]

/-- A reply that refuses. -/
def Signal.refuses : Signal → Prop
  | .reply _ _ (.issueReserved (.error _)) => True
  | .reply _ _ (.retained (.error _)) => True
  | _ => False

/-- The tombstones after an event: a late release is an explicit one from then on. -/
def tombstonesAfter (event : Event) (tombstones : FMap (Ref × Ref) Classification) :
    FMap (Ref × Ref) Classification :=
  match event with
  | .info (.release token holder) =>
      if tombstones.fetch (token, holder) = some .abandoned then
        tombstones.put (token, holder) .explicit
      else tombstones
  | _ => tombstones

/-- The owner lives on in the same state, but for counters, the classification of a
tombstone and a refusal it sent. -/
def Unchanged (event : Event) (keys : List CounterKey) (s : State) (out : Outcome) : Prop :=
  ∃ signals, (∀ signal ∈ signals, signal.refuses) ∧
    out.live? = some
      { bump keys s with
        releaseTombstones := tombstonesAfter event s.releaseTombstones
        sent := s.sent ++ signals }

variable {env : Env} {s : State} {event : Event} {keys : List CounterKey} {out : Outcome}
  {token : Ref}

theorem Unchanged.silent
    (htombstones : tombstonesAfter event s.releaseTombstones = s.releaseTombstones)
    (hout : out.live? = some (bump keys s)) : Unchanged event keys s out :=
  ⟨[], by simp, by rw [hout, htombstones, List.append_nil]; rfl⟩

theorem Unchanged.refused (signal : Signal) (hrefuses : signal.refuses)
    (htombstones : tombstonesAfter event s.releaseTombstones = s.releaseTombstones)
    (hout : out.live? = some ((bump keys s).send signal)) : Unchanged event keys s out :=
  ⟨[signal], by simpa using hrefuses, by rw [hout, htombstones]; rfl⟩

@[simp] theorem bump_nil (s : State) : bump [] s = s := by simp [bump, countKeys]

theorem bump_snoc (keys : List CounterKey) (key : CounterKey) (s : State) :
    (bump keys s).updateCounter key 1 = bump (keys ++ [key]) s := by
  rw [updateCounter_one]
  simp [bump, countKeys]

/-! ## Handlers that act before they look -/

theorem retainHolder_refused {parent child : Ref} (replyTo : Pid) (requestRef : Ref)
    (h : s.leases.fetch token = none ∨
      (∃ entry, s.leases.fetch token = some entry ∧
        (entry.status ≠ .active ∨ parent ∉ entry.holders ∨ child ∈ entry.holders)) ∨
      ∃ reason, createAbandonmentGuard env s.abandonmentGuardFactory = .error reason) :
    ∃ error, retainHolder env token parent child replyTo requestRef s =
      .noreply (replyRetain replyTo requestRef (.error error) s) := by
  unfold retainHolder
  cases hentry : s.leases.fetch token with
  | none => exact ⟨_, rfl⟩
  | some entry =>
      simp only
      split
      · next hactive =>
          split
          · exact ⟨_, rfl⟩
          · next hparent =>
              split
              · exact ⟨_, rfl⟩
              · next hchild =>
                  split
                  · next guard hguard =>
                      -- No reason is left to refuse it.
                      rcases h with h | ⟨entry', hentry', h | h | h⟩ | ⟨reason, h⟩
                      · rw [hentry] at h
                        cases h
                      all_goals first
                        | (rw [hguard] at h; cases h)
                        | (rw [hentry] at hentry'; cases hentry')
                      · exact absurd hactive h
                      · exact absurd h hparent
                      · exact absurd h hchild
                  · exact ⟨_, rfl⟩
      · exact ⟨_, rfl⟩

theorem handleRetain_refused {parent child : Ref} {replyTo : Pid} {requestRef : Ref}
    (h : RetainRefused env s token parent child) :
    Unchanged (.info (.retain token parent child replyTo requestRef)) [.retainRequests] s
      (handleRetain env token parent child replyTo requestRef s) := by
  have hreply (error : RetainError) :
      Unchanged (.info (.retain token parent child replyTo requestRef)) [.retainRequests] s
        (.noreply (replyRetain replyTo requestRef (.error error) (bump [.retainRequests] s))) :=
    .refused (.reply replyTo requestRef (.retained (.error error))) trivial rfl rfl
  unfold handleRetain
  rw [updateCounter_one]
  simp only
  split
  · exact hreply _
  · next hmode =>
      obtain ⟨error, heq⟩ := retainHolder_refused (s := bump [.retainRequests] s) replyTo
        requestRef (h.resolve_left hmode)
      rw [heq]
      exact hreply error

/-- A lease that did not fail has no timer to cancel. -/
theorem handleRetry_refused (hroster : s.roster.Sound) (caller : Caller)
    (h : ¬Roster.Failed s.leases token) :
    Unchanged (.retry token caller) [] s (handleRetry env token caller s) := by
  have hcancel : cancelRetryTimer token s = s := by
    have hnone : s.retryTimers.fetch token = none := hroster.no_timer h
    simp only [cancelRetryTimer, hnone]
  unfold handleRetry
  rw [hcancel]
  refine .silent rfl ?_
  cases hentry : s.leases.fetch token with
  | none => simp [hentry, Outcome.live?]
  | some entry =>
      cases hstatus : entry.status with
      | releaseFailed reason => exact absurd ⟨entry, reason, hentry, hstatus⟩ h
      | active => simp [hentry, hstatus, Outcome.live?]
      | releaseQueued generation => simp [hentry, hstatus, Outcome.live?]
      | releasing generation => simp [hentry, hstatus, Outcome.live?]

/-- An issue the index does not know is pending nowhere. -/
theorem handleConfirmIssue_refused (hexact : s.custody.Exact) {requestRef : Ref}
    (h : s.pendingIssues.fetch requestRef ≠ some token) :
    Unchanged (.info (.confirmIssue token requestRef)) [] s
      (handleConfirmIssue token requestRef s) := by
  refine .silent rfl ?_
  unfold handleConfirmIssue
  cases hentry : s.leases.fetch token with
  | none => simp [Outcome.live?]
  | some entry =>
      simp only
      split
      · next monitorRef pendingRef hactive hpending =>
          have hindex := hexact.indexed token entry.holding monitorRef pendingRef
            (custody_holding hentry hactive) hpending
          have hne : pendingRef ≠ requestRef := fun heq => h (heq ▸ hindex)
          simp [hne, Outcome.live?]
      · simp [Outcome.live?]

theorem handleConfirmRetain_refused {child requestRef : Ref}
    (h : ∀ entry monitorRef, s.leases.fetch token = some entry →
      entry.pendingRetains.fetch child ≠ some (monitorRef, requestRef)) :
    Unchanged (.info (.confirmRetain token child requestRef)) [] s
      (handleConfirmRetain token child requestRef s) := by
  refine .silent rfl ?_
  unfold handleConfirmRetain
  cases hentry : s.leases.fetch token with
  | none => simp [Outcome.live?]
  | some entry =>
      simp only
      split
      · next monitorRef pendingRef _ hpending =>
          have hne : pendingRef ≠ requestRef := by
            rintro rfl
            exact h entry monitorRef hentry hpending
          simp [hne, Outcome.live?]
      · simp [Outcome.live?]

/-- Whoever holds nothing has no pending retain to drop. -/
theorem clearPendingRetain_unheld (hsound : s.custody.Sound) {entry : Entry} {holder : Ref}
    (hentry : s.leases.fetch token = some entry) (hactive : entry.status = .active)
    (hholder : holder ∉ entry.holders) : clearPendingRetain holder entry s = (entry, s) := by
  have hnone : entry.pendingRetains.fetch holder = none := by
    cases hpending : entry.pendingRetains.fetch holder with
    | none => rfl
    | some p =>
        exact absurd (hsound.pending token entry.holding holder p
          (custody_holding hentry hactive) hpending) hholder
  simp only [clearPendingRetain, hnone]

theorem handleCancelRetain_refused (hsound : s.custody.Sound) {child : Ref}
    (h : (token, child) ∉ registeredOf s.leases ∨
      ∃ entry, s.leases.fetch token = some entry ∧ entry.rootHolder = some child) :
    (CountsDuplicate s token child →
      Unchanged (.info (.cancelRetain token child)) [.retainCancellations, .duplicateReleases] s
        (handleCancelRetain env token child s)) ∧
    (¬CountsDuplicate s token child →
      Unchanged (.info (.cancelRetain token child)) [.retainCancellations] s
        (handleCancelRetain env token child s)) := by
  unfold handleCancelRetain
  rw [updateCounter_one]
  have hleases : (bump [.retainCancellations] s).leases = s.leases := rfl
  simp only [hleases]
  cases hentry : s.leases.fetch token with
  | none =>
      refine ⟨fun hcounts => ?_, fun _ => .silent rfl rfl⟩
      obtain ⟨entry, hentry', -⟩ := hcounts
      rw [hentry] at hentry'
      cases hentry'
  | some entry =>
      simp only
      split
      · next hactive =>
          split
          · next hroot =>
              have hholder : child ∉ entry.holders := by
                rcases h with h | ⟨entry', hentry', hroot'⟩
                · exact fun hmem => h (mem_registeredOf_some hentry hmem)
                · rw [hentry] at hentry'
                  cases hentry'
                  exact absurd hroot'.symm hroot
              have hclear := clearPendingRetain_unheld (s := bump [.retainCancellations] s) hsound
                hentry hactive hholder
              rw [hclear]
              simp only [removeHolder, if_neg hholder, bump_snoc]
              refine ⟨fun _ => .silent rfl rfl, fun hno => absurd ?_ hno⟩
              exact ⟨entry, hentry, hactive, hroot, hholder⟩
          · next hroot =>
              refine ⟨fun hcounts => ?_, fun _ => .silent rfl rfl⟩
              obtain ⟨entry', hentry', -, hroot', -⟩ := hcounts
              rw [hentry] at hentry'
              cases hentry'
              exact absurd hroot' hroot
      · next hinactive =>
          refine ⟨fun hcounts => ?_, fun _ => .silent rfl rfl⟩
          obtain ⟨entry', hentry', hactive, -⟩ := hcounts
          rw [hentry] at hentry'
          cases hentry'
          exact absurd hactive hinactive

theorem handleAbandoned_refused {holder : Ref} (h : (token, holder) ∉ registeredOf s.leases) :
    Unchanged (.info (.abandoned token holder)) [] s (handleAbandoned env token holder s) := by
  refine .silent rfl ?_
  unfold handleAbandoned
  cases hentry : s.leases.fetch token with
  | none => simp [Outcome.live?]
  | some entry =>
      have hholder : holder ∉ entry.holders := fun hmem => h (mem_registeredOf_some hentry hmem)
      simp only [if_neg hholder]
      split <;> simp [Outcome.live?]

theorem handleRelease_refused {holder : Ref} (h : (token, holder) ∉ registeredOf s.leases) :
    Unchanged (.info (.release token holder))
      [unheldCounter (s.releaseTombstones.fetch (token, holder))] s
      (handleRelease env token holder s) := by
  unfold handleRelease
  cases htombstone : s.releaseTombstones.fetch (token, holder) with
  | some classification =>
      cases classification with
      | abandoned =>
          refine ⟨[], by simp, ?_⟩
          simp [Outcome.live?, tombstonesAfter, htombstone, updateCounter_one, unheldCounter, bump]
      | explicit =>
          refine .silent ?_ (by simp only [updateCounter_one]; rfl)
          simp [tombstonesAfter, htombstone]
  | none =>
      have htombstones : tombstonesAfter (.info (.release token holder)) s.releaseTombstones =
          s.releaseTombstones := by
        simp [tombstonesAfter, htombstone]
      refine .silent htombstones ?_
      simp only [updateCounter_one]
      cases hentry : s.leases.fetch token with
      | none => rfl
      | some entry =>
          have hholder : holder ∉ entry.holders := fun hmem => h (mem_registeredOf_some hentry hmem)
          simp only [if_neg hholder]
          split <;> rfl

theorem handleDown_refused (env : Env) {monitorRef : Ref} (reason : Term)
    (hproducer : some monitorRef ≠ s.producerMonitor)
    (hexecutor : monitorRef ≠ s.releaseExecutorMonitor)
    (hprotocol : s.protocolMonitors.fetch monitorRef = none)
    (hdrain : s.drainMonitors.fetch monitorRef = none) :
    handleDown env (some monitorRef) reason s = .noreply s := by
  simp only [handleDown, if_neg hproducer, if_neg hexecutor, hprotocol, hdrain]

/-! ## All of them -/

theorem Rejected.unchanged (h : Rejected env s event keys) (hroster : s.roster.Sound)
    (hexact : s.custody.Exact) : Unchanged event keys s (handle env event s) := by
  cases h with
  | @reserve metadata replyTo requestRef h =>
      have hreply (error : ReserveError) :
          Unchanged (.info (.reserveIssue metadata replyTo requestRef)) [] s
            (.noreply (replyIssueReservation replyTo requestRef (.error error) s)) :=
        .refused (.reply replyTo requestRef (.issueReserved (.error error))) trivial rfl
          (by rw [bump_nil]; rfl)
      simp only [handle, handleInfo, handleReserveIssue]
      split
      · exact hreply _
      · next hmode =>
          rw [if_pos (by simpa using h.resolve_left hmode)]
          exact hreply _
  | retain h => exact handleRetain_refused h
  | retry h => exact handleRetry_refused hroster _ h
  | confirmIssue h => exact handleConfirmIssue_refused hexact h
  | cancelIssue h =>
      exact .silent rfl (by simp [handle, handleInfo, handleCancelIssue, h, Outcome.live?])
  | confirmRetain h => exact handleConfirmRetain_refused h
  | @cancelRoot token root entry hentry hroot =>
      refine (handleCancelRetain_refused hexact.toSound (.inr ⟨entry, hentry, hroot⟩)).2 ?_
      rintro ⟨entry', hentry', -, hne, -⟩
      rw [hentry] at hentry'
      cases hentry'
      exact hne hroot.symm
  | cancelRetain h hcounts =>
      exact (handleCancelRetain_refused hexact.toSound (.inl h)).2 hcounts
  | cancelDuplicate h hcounts =>
      exact (handleCancelRetain_refused hexact.toSound (.inl h)).1 hcounts
  | abandoned h => exact handleAbandoned_refused h
  | release h => exact handleRelease_refused h
  | @staleTimer token generation h =>
      refine .silent rfl ?_
      simp only [handle, handleInfo, handleRetryRelease, bump_nil]
      cases htimer : s.retryTimers.fetch token with
      | none => rfl
      | some timer => simp only [if_neg (h timer htimer), Outcome.live?]
  | staleDown hproducer hexecutor hprotocol hdrain =>
      refine .silent rfl ?_
      have heq := handleDown_refused env ‹Term› hproducer hexecutor hprotocol hdrain
      simp only [handle, handleInfo, heq, bump_nil, Outcome.live?]
  | cancelDrain h =>
      exact .silent rfl (by simp [handle, handleInfo, removeDrainWaiter, h, Outcome.live?])
  | malformed => exact .silent rfl (by simp only [handle, handleInfo, updateCounter_one]; rfl)

/-- What the last callback sent does not matter. -/
theorem Rejected.unsent (h : Rejected env s event keys) :
    Rejected env { s with sent := [] } event keys := by
  cases h with
  | reserve h => exact .reserve h
  | retain h => exact .retain h
  | retry h => exact .retry h
  | confirmIssue h => exact .confirmIssue h
  | cancelIssue h => exact .cancelIssue h
  | confirmRetain h => exact .confirmRetain h
  | cancelRoot hentry hroot => exact .cancelRoot hentry hroot
  | cancelRetain h hcounts => exact .cancelRetain h hcounts
  | cancelDuplicate h hcounts => exact .cancelDuplicate h hcounts
  | abandoned h => exact .abandoned h
  | release h => exact .release h
  | staleTimer h => exact .staleTimer h
  | staleDown hproducer hexecutor hprotocol hdrain =>
      exact .staleDown hproducer hexecutor hprotocol hdrain
  | cancelDrain h => exact .cancelDrain h
  | malformed => exact .malformed

variable {o : Owner} {visits : List (Visit Owner Input)}

/-- **Rejected and stale requests are no-ops.** -/
theorem rejected_unchanged (h : Owner.Run visits o) (hfresh : FreshReferences visits)
    (hrejected : Rejected env o.state event keys) :
    Unchanged event keys { o.state with sent := [] } (outcome o.state ⟨env, event⟩) := by
  exact hrejected.unsent.unchanged h.roster (h.kept hfresh.reserves).exact

/-- A release of a holder the sample owner does not know. -/
theorem rejected_unchanged_sample : ∃ visits o, Owner.Run visits o ∧
    (o.state.leases.fetch 20).isSome = true ∧
    Unchanged (.info (.release 20 99)) [.unclassifiedReleases] { o.state with sent := [] }
      (outcome o.state ⟨.plain 27, .info (.release 20 99)⟩) := by
  have hrun := sampleRun_run (n := 2) rfl
  refine ⟨_, _, hrun, rfl, ?_⟩
  exact rejected_unchanged hrun ⟨by decide, by decide⟩ (.release (by decide))

end VideoInterop.LeaseOwner
