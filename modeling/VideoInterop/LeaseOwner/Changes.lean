import VideoInterop.LeaseOwner.Custody
import VideoInterop.LeaseOwner.Roster

/-!
# The callbacks change the custody

One event makes one change to the custody of the leases.  Queueing, executing
and finishing a release are no changes: a lease leaves the custody with its
last holder.
-/

namespace VideoInterop.LeaseOwner

/-- Signals that watch a process or grant something. -/
def Signal.binding : Signal → Bool
  | .monitor .. => true
  | .reply _ _ (.issueReserved (.ok _)) => true
  | .reply _ _ (.issued (.ok _)) => true
  | .reply _ _ (.retained (.ok _)) => true
  | _ => false

variable {env : Env} {s s' : State} {token : Ref} {entry : Entry}

theorem Signal.not_binding {signal : Signal} (h : signal.quiet = true) :
    signal.binding = false := by
  cases signal with
  | reply replyTo requestRef reply =>
      rcases reply with (_ | _) | (_ | _) | (_ | _) | _ <;> first | rfl | cases h
  | monitor => cases h
  | _ => rfl

theorem Silent.binding {a b : List Signal} (h : Silent a b) :
    b.filter Signal.binding = a.filter Signal.binding := by
  obtain ⟨extra, rfl, hquiet⟩ := h
  have hnone : extra.filter Signal.binding = [] :=
    List.filter_eq_nil_iff.mpr fun signal hs => by simp [Signal.not_binding (hquiet signal hs)]
  rw [List.filter_append, hnone, List.append_nil]

/-- What a callback does to the custody, and its signals for it. -/
def Alters (env : Env) (s : State) (event : Event) (s' : State) : Prop :=
  ∃ signals, Custody.Change env event s.custody signals s'.custody ∧
    s'.sent.filter Signal.binding = s.sent.filter Signal.binding ++ signals

theorem Alters.same {event : Event} (hcustody : s'.custody = s.custody)
    (hsent : s'.sent.filter Signal.binding = s.sent.filter Signal.binding) :
    Alters env s event s' :=
  ⟨[], by rw [hcustody]; exact .same, by rw [hsent, List.append_nil]⟩

theorem holding?_active (h : entry.status = .active) : entry.holding? = some entry.holding := by
  simp [Entry.holding?, h]

theorem holding?_inactive (h : entry.status ≠ .active) : entry.holding? = none := by
  unfold Entry.holding?
  split
  · next hactive => exact absurd hactive h
  · rfl

theorem custody_holding (hentry : s.leases.fetch token = some entry)
    (hactive : entry.status = .active) : s.custody.holdings token = some entry.holding := by
  simp [State.custody, hentry, holding?_active hactive]

theorem holdings_some {H : Holding} (h : s.custody.holdings token = some H) :
    ∃ entry, s.leases.fetch token = some entry ∧ entry.status = .active ∧ H = entry.holding := by
  obtain ⟨entry, hentry, hholding⟩ := Option.bind_eq_some_iff.mp h
  unfold Entry.holding? at hholding
  split at hholding
  · next hactive =>
      cases hholding
      exact ⟨entry, hentry, hactive, rfl⟩
  · cases hholding

/-- An update of one lease, as the custody sees it. -/
theorem holdings_put (leases : FMap Ref Entry) :
    (fun t => ((leases.put token entry).fetch t).bind Entry.holding?) =
      Function.update (fun t => (leases.fetch t).bind Entry.holding?) token entry.holding? := by
  funext t
  by_cases ht : t = token
  · subst ht
    simp
  · simp [ht]

/-- An active lease gets another entry and stays active. -/
theorem Alters.put {event : Event} {entry' : Entry} {signals : List Signal}
    (hleases : s'.leases = s.leases.put token entry')
    (hreservations : s'.issueReservations = s.issueReservations)
    (hactive : entry'.status = .active)
    (hchange : Custody.Change env event s.custody signals
      { s.custody.amended token entry'.holding s'.protocolMonitors with
        issues := s'.pendingIssues })
    (hsent : s'.sent.filter Signal.binding = s.sent.filter Signal.binding ++ signals) :
    Alters env s event s' := by
  refine ⟨signals, ?_, hsent⟩
  have heq : s'.custody =
      { s.custody.amended token entry'.holding s'.protocolMonitors with
        issues := s'.pendingIssues } := by
    simp only [State.custody, Custody.amended, hleases, hreservations, holdings_put,
      holding?_active hactive]
  rw [heq]
  exact hchange

/-! ## Monitors -/

theorem monitorsWithoutIssue_spec (entry : Entry) (monitors : FMap Ref MonitorTarget) :
    monitors.Without (fun k => ∃ requestRef, entry.pendingIssue = some (k, requestRef))
      (monitorsWithoutIssue entry monitors) := by
  unfold monitorsWithoutIssue
  split
  · next hnone => exact .none fun k _ _ => by simp [hnone]
  · next hsome => exact (FMap.Without.delete _ _).congr fun k _ _ => by simp [hsome, eq_comm]

theorem monitorsWithoutRetain_spec (holder : Ref) (entry : Entry)
    (monitors : FMap Ref MonitorTarget) :
    monitors.Without (entry.holding.WatchesRetain holder)
      (monitorsWithoutRetain holder entry monitors) := by
  unfold monitorsWithoutRetain
  split
  · next hnone => exact .none fun k _ _ => by simp [Holding.WatchesRetain, Entry.holding, hnone]
  · next hsome =>
      exact (FMap.Without.delete _ _).congr fun k _ _ => by
        simp [Holding.WatchesRetain, Entry.holding, hsome, eq_comm]

theorem mem_pendingRetainMonitors {monitorRef : Ref} :
    monitorRef ∈ pendingRetainMonitors env entry ↔
      ∃ child requestRef, entry.pendingRetains.fetch child = some (monitorRef, requestRef) := by
  simp only [pendingRetainMonitors, List.mem_filterMap, env.mem_order, FMap.mem_keys,
    Option.map_eq_some_iff]
  constructor
  · rintro ⟨child, -, ⟨m, requestRef⟩, hp, rfl⟩
    exact ⟨child, requestRef, hp⟩
  · rintro ⟨child, requestRef, hp⟩
    exact ⟨child, ⟨_, hp⟩, _, hp, rfl⟩

theorem monitorsWithout_spec (env : Env) (entry : Entry) (monitors : FMap Ref MonitorTarget) :
    monitors.Without entry.holding.Watches (monitorsWithout env entry monitors) := by
  refine ((monitorsWithoutIssue_spec entry monitors).trans
    (FMap.Without.foldl_delete (pendingRetainMonitors env entry) _)).congr fun k _ _ => ?_
  rw [mem_pendingRetainMonitors]
  rfl

/-- An entry with nothing pending has no monitors. -/
theorem monitorsWithout_settled (env : Env)
    (h : entry.pendingIssue = none ∧ entry.pendingRetains = ∅) (monitors : FMap Ref MonitorTarget) :
    monitorsWithout env entry monitors = monitors := by
  have hnone : pendingRetainMonitors env entry = [] := by
    rw [pendingRetainMonitors, h.2]
    simp
  rw [monitorsWithout, hnone, monitorsWithoutIssue, h.1]
  rfl

theorem issuesWithout_eq (entry : Entry) (issues : FMap Ref Ref) :
    issuesWithout entry issues =
      entry.pendingIssue.elim issues fun (_, requestRef) => issues.delete requestRef := by
  unfold issuesWithout
  cases entry.pendingIssue <;> rfl

/-! ## Releases -/

/-- The next job's lease is not active before or after it starts. -/
theorem dispatch_custody (h : Mirrors s.leases (serialQueue s))
    (hdispatch : dispatchNextRelease env s = some s') :
    s'.custody = s.custody ∧ s'.sent.filter Signal.binding = s.sent.filter Signal.binding := by
  rcases dispatchNextRelease_cases hdispatch with
    ⟨rfl, -⟩ | ⟨job, rest, entry, hjob, hqueue, hentry, rfl⟩
  · exact ⟨rfl, rfl⟩
  · have hline : (serialQueue s).waiting = job.attempted :: rest.map Job.attempted := by
      rw [serialQueue, hqueue]
      rfl
    have hstatus := (h.front hline hentry).1
    refine ⟨?_, by simp [Signal.binding]⟩
    simp only [State.custody, holdings_put, Custody.mk.injEq, true_and]
    refine Function.update_eq_self_iff.mpr ?_
    rw [hentry]
    exact (holding?_inactive (by simp)).trans (holding?_inactive (by simp [hstatus])).symm

/-- A lease that is to be released leaves the custody. -/
theorem releaseEntry_custody {isRetry : Bool} {waiter : Option Waiter}
    (hrelease : releaseEntry env token entry s isRetry waiter = some s')
    (h : MirrorsExcept token s.leases (serialQueue s)) (hholders : entry.holders = ∅) :
    s'.custody =
        { reservations := s.issueReservations
          watches := monitorsWithout env entry s.protocolMonitors
          issues := issuesWithout entry s.pendingIssues
          holdings := Function.update s.custody.holdings token none } ∧
      s'.sent.filter Signal.binding = s.sent.filter Signal.binding := by
  obtain ⟨sent, hsent, heq⟩ := releaseEntry_eq env token entry s isRetry waiter
  rw [heq] at hrelease
  obtain ⟨hcustody, hbinding⟩ :=
    dispatch_custody (h.enqueueRelease env hholders isRetry waiter sent) hrelease
  refine ⟨?_, hbinding.trans hsent.binding⟩
  rw [hcustody]
  simp only [State.custody, State.enqueueRelease, holdings_put, Custody.mk.injEq, true_and]
  rw [holding?_inactive (by simp [Entry.queued])]

/-- A lease that is released once more has nothing to lose. -/
theorem retry_custody {isRetry : Bool} {waiter : Option Waiter} {reason : ReleaseError}
    (h : Coupled s) (hsettled : entry.pendingIssue = none ∧ entry.pendingRetains = ∅)
    (hentry : s.leases.fetch token = some entry) (hfailed : entry.status = .releaseFailed reason)
    (hrelease : releaseEntry env token entry s isRetry waiter = some s') :
    s'.custody = s.custody ∧ s'.sent.filter Signal.binding = s.sent.filter Signal.binding := by
  obtain ⟨hcustody, hbinding⟩ := releaseEntry_custody hrelease
    (h.mirrors.except_failed hentry hfailed) (h.mirrors.no_holders hentry (by simp [hfailed]))
  have hissues : issuesWithout entry s.pendingIssues = s.pendingIssues := by
    rw [issuesWithout, hsettled.1]
  refine ⟨?_, hbinding⟩
  rw [hcustody, monitorsWithout_settled env hsettled, hissues]
  simp only [State.custody, Custody.mk.injEq, true_and]
  refine Function.update_eq_self_iff.mpr ?_
  rw [hentry]
  exact (holding?_inactive (by simp [hfailed])).symm

/-! ## Holders and issues -/

/-- Both monitors of a lease's clients are gone once the first and then the rest is. -/
theorem watches_trans {H K : Holding} {watches watches' watches'' : FMap Ref MonitorTarget}
    {gone : Ref → Prop} (hfirst : watches.Without gone watches')
    (hrest : watches'.Without K.Watches watches'')
    (hgone : ∀ k, gone k → H.Watches k) (hK : ∀ k, K.Watches k → H.Watches k)
    (hH : ∀ k, H.Watches k → gone k ∨ K.Watches k) : watches.Without H.Watches watches'' :=
  (hfirst.trans hrest).congr fun k _ _ => ⟨fun h => h.elim (hgone k) (hK k), hH k⟩

/-- A holder that is registered leaves its lease. -/
theorem Alters.remove {event : Event} {holder : Ref} (s₁ : State) (h : Coupled s)
    (hlive : (removeHolder env token holder
      { entry with pendingRetains := entry.pendingRetains.delete holder } s₁).live? = some s')
    (hleases : s₁.leases = s.leases) (hqueue : serialQueue s₁ = serialQueue s)
    (hreservations : s₁.issueReservations = s.issueReservations)
    (hissues : s₁.pendingIssues = s.pendingIssues)
    (hwatches : s.protocolMonitors.Without (entry.holding.WatchesRetain holder)
      s₁.protocolMonitors)
    (hsent : s₁.sent.filter Signal.binding = s.sent.filter Signal.binding)
    (hentry : s.leases.fetch token = some entry) (hactive : entry.status = .active)
    (hevent : s.custody.Removes event token entry.holding holder)
    (hholder : holder ∈ entry.holders) : Alters env s event s' := by
  have hH := custody_holding hentry hactive
  unfold removeHolder at hlive
  simp only [if_pos hholder] at hlive
  split at hlive
  · next hlast =>
      have hempty : entry.holders.erase holder = ∅ := Finset.card_eq_zero.mp hlast
      split at hlive
      · next s₂ hs₂ =>
          obtain rfl := stopOrContinue_live hlive
          have hmirrors : MirrorsExcept token s₁.leases (serialQueue s₁) := by
            rw [hleases, hqueue]
            exact h.mirrors.except_active hentry hactive
          obtain ⟨hcustody, hbinding⟩ := releaseEntry_custody hs₂ hmirrors hempty
          refine ⟨[], ?_, ?_⟩
          · have hchange : Custody.Change env event s.custody []
                (s.custody.dismissed token entry.holding
                  (monitorsWithout env
                    { entry with
                      pendingRetains := entry.pendingRetains.delete holder
                      holders := entry.holders.erase holder } s₁.protocolMonitors)) := by
              refine .removeLast hevent hH ?_ (watches_trans hwatches (monitorsWithout_spec env _ _)
                ?_ ?_ ?_)
              · exact ((Finset.erase_eq_empty_iff _ _).mp hempty).resolve_left
                  (Finset.ne_empty_of_mem hholder)
              · rintro k ⟨requestRef, hpending⟩
                exact .inr ⟨holder, requestRef, hpending⟩
              · rintro k (hissue | ⟨child, requestRef, hpending⟩)
                · exact .inl hissue
                · simp only [Entry.holding, FMap.fetch_delete] at hpending
                  split at hpending
                  · cases hpending
                  · exact .inr ⟨child, requestRef, hpending⟩
              · rintro k (hissue | ⟨child, requestRef, hpending⟩)
                · exact .inr (.inl hissue)
                · cases decEq child holder with
                  | isTrue heq => exact .inl ⟨requestRef, heq ▸ hpending⟩
                  | isFalse hne =>
                      exact .inr (.inr
                        ⟨child, requestRef, by simpa [Entry.holding, hne] using hpending⟩)
            have heq : s'.custody = s.custody.dismissed token entry.holding
                (monitorsWithout env
                  { entry with
                    pendingRetains := entry.pendingRetains.delete holder
                    holders := entry.holders.erase holder } s₁.protocolMonitors) := by
              rw [hcustody]
              simp only [Custody.dismissed, State.custody, hleases, hreservations, hissues,
                issuesWithout_eq]
              rfl
            rw [heq]
            exact hchange
          · rw [hbinding, hsent, List.append_nil]
      · cases hlive
  · next hmore =>
      cases hlive
      refine ⟨[], ?_, ?_⟩
      · have hchange : Custody.Change env event s.custody []
            (s.custody.amended token (entry.holding.without holder) s₁.protocolMonitors) :=
          .remove hevent hH hholder (Finset.card_pos.mp (Nat.pos_of_ne_zero hmore)) hwatches
        simp only [State.custody, hreservations, hissues, hleases, holdings_put,
          holding?_active (show Entry.status
            { entry with
              pendingRetains := entry.pendingRetains.delete holder
              holders := entry.holders.erase holder } = .active from hactive)]
        exact hchange
      · rw [List.append_nil]
        exact hsent

/-- The pending issue of an active lease is revoked; a monitor of the lease may be
gone before. -/
theorem Alters.revoke {event : Event} {pending : Ref × Ref} {sent : List Signal} (s₁ : State)
    (gone : Ref → Prop) (h : Coupled s)
    (hrelease : releaseEntry env token { entry with pendingIssue := none, holders := ∅ }
      (s₁.revoked entry sent) = some s')
    (hleases : s₁.leases = s.leases) (hqueue : serialQueue s₁ = serialQueue s)
    (hreservations : s₁.issueReservations = s.issueReservations)
    (hissues : s₁.pendingIssues = s.pendingIssues)
    (hwatches : s.protocolMonitors.Without gone s₁.protocolMonitors)
    (hgone : ∀ k, gone k → entry.holding.Watches k) (hsent : Silent s.sent sent)
    (hentry : s.leases.fetch token = some entry) (hactive : entry.status = .active)
    (hpending : entry.pendingIssue = some pending)
    (hevent : s.custody.Revokes event token) : Alters env s event s' := by
  have hmirrors : MirrorsExcept token (s₁.revoked entry sent).leases
      (serialQueue (s₁.revoked entry sent)) := by
    show MirrorsExcept token s₁.leases (serialQueue s₁)
    rw [hleases, hqueue]
    exact h.mirrors.except_active hentry hactive
  obtain ⟨hcustody, hbinding⟩ := releaseEntry_custody hrelease hmirrors rfl
  have hleft : s.protocolMonitors.Without entry.holding.Watches
      (monitorsWithout env { entry with pendingIssue := none, holders := ∅ }
        (s₁.revoked entry sent).protocolMonitors) := by
    refine watches_trans (hwatches.trans (monitorsWithoutIssue_spec entry _))
      (monitorsWithout_spec env _ _) ?_ ?_ ?_
    · rintro k (hk | hissue)
      · exact hgone k hk
      · exact .inl hissue
    · rintro k (⟨requestRef, hissue⟩ | hretain)
      · cases hissue
      · exact .inr hretain
    · rintro k (hissue | hretain)
      · exact .inl (.inr hissue)
      · exact .inr (.inr hretain)
  refine ⟨[], ?_, ?_⟩
  · have hchange : Custody.Change env event s.custody []
        (s.custody.dismissed token entry.holding _) :=
      .revoke hevent (custody_holding hentry hactive) hpending hleft
    have heq : s'.custody = s.custody.dismissed token entry.holding
        (monitorsWithout env { entry with pendingIssue := none, holders := ∅ }
          (s₁.revoked entry sent).protocolMonitors) := by
      rw [hcustody]
      simp only [Custody.dismissed, State.custody, State.revoked, hleases, hreservations, hissues,
        issuesWithout_eq]
      rfl
    rw [heq]
    exact hchange
  · rw [hbinding, List.append_nil]
    exact hsent.binding

/-! ## Every callback -/

/-- A callback that leaves the custody alone and sends quiet signals. -/
theorem Alters.silent {event : Event} (hcustody : s'.custody = s.custody)
    (hsent : Silent s.sent s'.sent) : Alters env s event s' :=
  .same hcustody hsent.binding

/-- A reservation is given up. -/
theorem Alters.vacate {event : Event} {requestRef : Ref} {demonitor : Bool} (s₁ : State)
    (hevent : s.custody.Vacates event requestRef)
    (hreservations : s₁.issueReservations = s.issueReservations)
    (hissues : s₁.pendingIssues = s.pendingIssues) (hleases : s₁.leases = s.leases)
    (hsent : s₁.sent = s.sent)
    (hwatches : s.protocolMonitors.Without (Fired event) s₁.protocolMonitors) :
    Alters env s event (removeIssueReservation requestRef s₁ demonitor) := by
  have hchange (watches : FMap Ref MonitorTarget)
      (h : s.protocolMonitors.Without (fun k => Fired event k ∨
        ∃ r, s.issueReservations.fetch requestRef = some r ∧ k = r.monitorRef) watches) :
      Custody.Change env event s.custody []
        { s.custody with
          reservations := s.custody.reservations.delete requestRef, watches := watches } :=
    .vacate hevent h
  unfold removeIssueReservation
  rw [hreservations]
  split
  · next monitorRef _ hr =>
      have hgone := hwatches.trans (FMap.Without.delete s₁.protocolMonitors monitorRef)
      refine ⟨[], ?_, ?_⟩
      · have hdone := hchange _ (hgone.congr fun k _ _ => by simp [hr])
        cases demonitor <;> simpa [State.custody, State.send, hissues, hleases] using hdone
      · cases demonitor <;> simp [State.send, hsent, Signal.binding]
  · next hnone =>
      have hnone' : s.issueReservations.fetch requestRef = none := hnone
      refine ⟨[], ?_, by simp [hsent]⟩
      have hdone := hchange _ (hwatches.congr fun k _ _ => by simp [hnone'])
      have hdelete : s.custody.reservations.delete requestRef = s.issueReservations :=
        FMap.delete_of_none hnone'
      rw [hdelete] at hdone
      simpa [State.custody, hreservations, hissues, hleases] using hdone

/-- A job of a releasing lease ends: the custody has no part in it. -/
theorem Settles.custody {job : RunningJob} {generation : Ref} {s₁ : State}
    (hsettles : Settles env token entry job s s₁) (h : Coupled s) (hjob : s.releaseJob = some job)
    (htoken : job.token = token) (hgeneration : job.generation = generation)
    (hentry : s.leases.fetch token = some entry) (hstatus : entry.status = .releasing generation)
    (hdispatch : dispatchNextRelease env s₁ = some s') :
    s'.custody = s.custody ∧ s'.sent.filter Signal.binding = s.sent.filter Signal.binding := by
  subst htoken hgeneration
  have hrun := serialQueue_running hjob
  have hinactive : entry.holding? = none := holding?_inactive (by simp [hstatus])
  rcases hsettles with ⟨value, durationNs, rfl⟩ | ⟨reason, durationNs, rfl⟩
  · obtain ⟨counters, hcount⟩ := countFinished_eq job durationNs s
    obtain ⟨hcustody, hbinding⟩ := dispatch_custody (finishOk_mirrors h hrun) hdispatch
    obtain ⟨sent, hsent, heq⟩ := finishOk_eq job.token entry job value durationNs
      { s with releaseJob := none, counters := counters }
    rw [hcount, heq] at hcustody hbinding
    refine ⟨hcustody.trans ?_, hbinding.trans hsent.binding⟩
    simp only [State.custody, Custody.mk.injEq, true_and]
    funext t
    cases decEq t job.token with
    | isTrue ht =>
        rw [ht, hentry]
        simp [hinactive]
    | isFalse ht => simp [ht]
  · obtain ⟨counters, hcount⟩ := countFinished_eq job durationNs s
    obtain ⟨hcustody, hbinding⟩ :=
      dispatch_custody (finishError_mirrors h hentry hstatus hrun) hdispatch
    obtain ⟨counters', timers, waiters, monitors, sent, hsent, heq⟩ := finishError_eq env job.token
      entry job reason { s with releaseJob := none, counters := counters }
    rw [hcount, heq] at hcustody hbinding
    refine ⟨hcustody.trans ?_, hbinding.trans hsent.binding⟩
    simp only [State.custody, holdings_put, Custody.mk.injEq, true_and]
    refine Function.update_eq_self_iff.mpr ?_
    rw [hentry]
    exact (holding?_inactive (by simp)).trans hinactive.symm

theorem startReleaseExecutor_custody (env : Env) (keys : List CounterKey) (s : State) :
    (startReleaseExecutor env (bump keys s)).custody = s.custody ∧
      (startReleaseExecutor env (bump keys s)).sent.filter Signal.binding =
        s.sent.filter Signal.binding :=
  ⟨rfl, by simp [startReleaseExecutor, State.send, bump, Signal.binding]⟩

/-- **Every callback makes one change to the custody**, and sends the monitors and
grants of that change. -/
theorem Transition.change {event : Event} {out : Outcome} (h : Coupled s)
    (hroster : s.roster.Sound) (hsound : s.custody.Sound)
    (hfresh : s.leases.fetch env.token = none) (ht : Transition env s event out)
    (hlive : out.live? = some s') : Alters env s event s' := by
  have hunheld : s.custody.holdings env.token = none := by
    simp only [State.custody, hfresh, Option.bind_none]
  cases ht with
  | raise => cases hlive
  | quiet _ keys _ hsent hout =>
      rw [hlive] at hout
      cases hout
      exact .silent rfl hsent
  | reserve _ _ =>
      cases hlive
      exact ⟨_, .reserve rfl, by simp [State.reserved, Signal.binding]⟩
  | @issue reservation backendToken replyTo requestRef r guard _ hr _ _ _ hout =>
      rw [hlive] at hout
      cases hout
      refine ⟨[.reply replyTo requestRef (.issued (.ok (issuedLease env guard s)))], ?_, ?_⟩
      · have hchange : Custody.Change env
            (.info (.commitIssue reservation backendToken replyTo requestRef)) s.custody
            [.reply replyTo requestRef (.issued (.ok (issuedLease env guard s)))] _ :=
          .issue rfl hr rfl rfl
        simp only [State.issued, State.consumed, FMap.put_put, State.custody, bump, holdings_put,
          holding?_active (show (issuedEntry env backendToken r.metadata requestRef
            r.monitorRef).status = .active from rfl)]
        exact hchange
      · simp [State.issued, bump, Signal.binding]
  | @reject reservation backendToken replyTo requestRef r _ _ hr _ _ _ hrelease =>
      cases hlive
      have hmirrors : MirrorsExcept env.token
          (s.rejected env backendToken r.metadata requestRef r.monitorRef).leases
          (serialQueue (s.rejected env backendToken r.metadata requestRef r.monitorRef)) :=
        (h.mirrors.except (h.mirrors.jobless_of_none hfresh)).congr
          (fun other hne => by
            simp [State.rejected, dropProtocolMonitor, State.send, State.consumed, hne])
      obtain ⟨hcustody, hbinding⟩ := releaseEntry_custody hrelease hmirrors rfl
      refine ⟨[], ?_, ?_⟩
      · have hchange : Custody.Change env
            (.info (.commitIssue reservation backendToken replyTo requestRef)) s.custody []
            { s.custody with
              reservations := s.custody.reservations.delete requestRef
              watches := (s.protocolMonitors.put r.monitorRef
                (.issuePending requestRef)).delete r.monitorRef } := by
          refine .reject rfl hr fun k target => ?_
          cases decEq k r.monitorRef with
          | isTrue hk => simp [hk]
          | isFalse hk => simp [hk, State.custody]
        rw [hcustody]
        have hholdings : Function.update
            (s.rejected env backendToken r.metadata requestRef r.monitorRef).custody.holdings
            env.token none = s.custody.holdings := by
          simp only [State.rejected, State.custody, holdings_put, Function.update_idem]
          exact Function.update_eq_self_iff.mpr hunheld.symm
        rw [hholdings, monitorsWithout_settled env ⟨rfl, rfl⟩]
        exact hchange
      · rw [hbinding]
        simp [State.rejected, dropProtocolMonitor, State.send, State.consumed, Signal.binding]
  | corrupt _ => cases hlive
  | @cancelReservation requestRef =>
      rw [stopOrContinue_live hlive]
      refine .vacate s (.inl rfl) rfl rfl rfl rfl ?_
      refine .none fun k _ _ hfired => ?_
      obtain ⟨_, hfired⟩ := hfired
      cases hfired
  | @reservationDown monitorRef reason target requestRef _ hm htarget =>
      rw [stopOrContinue_live hlive]
      rcases htarget with rfl | rfl
      · refine .vacate (s.unwatched monitorRef) (.inr ⟨monitorRef, ⟨reason, rfl⟩, hm⟩) rfl rfl rfl
          rfl ?_
        refine (FMap.Without.delete _ _).congr fun k _ _ => ?_
        simp [Fired, eq_comm]
      · exact absurd hm (hsound.settled monitorRef requestRef)
  | confirmIssue hentry hactive hpending hsent =>
      cases hlive
      exact .put rfl rfl hactive (.confirmIssue rfl (custody_holding hentry hactive) hpending)
        (by simpa using hsent.binding)
  | cancelIssue hissue hentry hactive hpending hsent hrelease =>
      rw [stopOrContinue_live hlive]
      exact .revoke s (fun _ => False) h hrelease rfl rfl rfl rfl (.none fun _ _ _ => id)
        (fun _ => False.elim) hsent hentry hactive hpending (.inl ⟨_, rfl, hissue⟩)
  | @issueDown monitorRef reason token requestRef entry pending sent s₁ _ hm hentry hactive hpending
      hsent hrelease =>
      rw [stopOrContinue_live hlive]
      refine .revoke (s.unwatched monitorRef) _ h hrelease rfl rfl rfl rfl
        (FMap.Without.delete _ monitorRef) ?_ hsent hentry hactive hpending
        (.inr ⟨monitorRef, requestRef, ⟨reason, rfl⟩, hm⟩)
      rintro k rfl
      obtain ⟨H, hH, hissue⟩ := (hsound.issue _ _ _).mp hm
      rw [custody_holding hentry hactive] at hH
      cases hH
      exact .inl ⟨requestRef, hissue⟩
  | @retain token _ childHolder replyTo requestRef entry guard _ _ hentry hactive hparent hchild _
      hout =>
      rw [hlive] at hout
      cases hout
      have hsent : (s.retained env token childHolder replyTo requestRef entry guard).sent.filter
          Signal.binding = s.sent.filter Signal.binding ++
            [.monitor replyTo env.monitorRef,
              .reply replyTo requestRef (.retained (.ok guard))] := by
        simp [State.retained, bump, Signal.binding]
      exact .put rfl rfl hactive (.retain rfl (custody_holding hentry hactive) hparent hchild) hsent
  | confirmRetain hentry hactive hpending hsent =>
      cases hlive
      exact .put rfl rfl hactive (.confirmRetain rfl (custody_holding hentry hactive) hpending)
        (by simpa using hsent.binding)
  | @cancelRetain token childHolder entry sent hentry hactive hroot hsent =>
      have hwatches := monitorsWithoutRetain_spec childHolder entry s.protocolMonitors
      by_cases hholder : childHolder ∈ entry.holders
      · exact .remove _ h hlive rfl rfl rfl rfl hwatches hsent.binding hentry hactive
          (.inr (.inr (.inl ⟨rfl, hroot⟩))) hholder
      · -- Whoever is not registered has no pending retain.
        have hnone : entry.pendingRetains.fetch childHolder = none := by
          cases hpending : entry.pendingRetains.fetch childHolder with
          | none => rfl
          | some p =>
              exact absurd
                (hsound.pending _ _ _ _ (custody_holding hentry hactive) hpending) hholder
        simp only [removeHolder, if_neg hholder, monitorsWithoutRetain, hnone] at hlive
        cases hlive
        exact .silent rfl hsent
  | @retainDown monitorRef reason token childHolder entry _ hm hentry hactive =>
      obtain ⟨H, requestRef, hH, hpending⟩ := (hsound.retain _ _ _).mp hm
      rw [custody_holding hentry hactive] at hH
      cases hH
      refine .remove (s.unwatched monitorRef) h hlive rfl rfl rfl rfl ?_ rfl hentry hactive
        (.inr (.inr (.inr ⟨monitorRef, ⟨reason, rfl⟩, hm⟩)))
        (hsound.pending _ _ _ _ (custody_holding hentry hactive) hpending)
      refine (FMap.Without.delete _ monitorRef).congr fun k _ _ => ?_
      have hpending' : entry.pendingRetains.fetch childHolder = some (monitorRef, requestRef) :=
        hpending
      simp [Holding.WatchesRetain, Entry.holding, hpending', eq_comm]
  | @staleDown monitorRef reason target _ hm htarget =>
      -- A monitor of a sound custody stands for something that is pending.
      rcases htarget with ⟨token, requestRef, rfl, hstale⟩ | ⟨token, childHolder, rfl, hstale⟩
      · obtain ⟨H, hH, hpending⟩ := (hsound.issue _ _ _).mp hm
        obtain ⟨entry, hentry, hactive, rfl⟩ := holdings_some hH
        have hnone : entry.holding.pendingIssue = none := hstale entry hentry hactive
        rw [hnone] at hpending
        cases hpending
      · obtain ⟨H, _, hH, -⟩ := (hsound.retain _ _ _).mp hm
        obtain ⟨entry, hentry, hactive, -⟩ := holdings_some hH
        exact absurd hactive (hstale entry hentry)
  | @retire classification token holder entry sent s₁ _ hentry hactive hholder hsent hput =>
      obtain ⟨tombstones, order, counters, rfl⟩ := putReleaseTombstone_frame hput
      refine .remove _ h hlive rfl rfl rfl rfl (monitorsWithoutRetain_spec holder entry _)
        hsent.binding hentry hactive ?_ hholder
      cases classification with
      | explicit => exact .inl rfl
      | abandoned => exact .inr (.inl rfl)
  | lateRelease _ =>
      cases hlive
      exact .silent rfl (.refl _)
  | drainFailed _ =>
      cases hlive
      obtain ⟨waiters, monitors, sent, hsent, heq⟩ :=
        replyDrainWaiter_frame _ _ (s.waiting env _ _)
      rw [heq]
      refine ⟨_, .drain rfl, ?_⟩
      rw [hsent.binding]
      simp [State.waiting, State.send, Signal.binding]
  | drainDone _ _ => cases hlive
  | drainWaits _ _ =>
      cases hlive
      exact ⟨_, .drain rfl, by simp [State.waiting, State.send, Signal.binding]⟩
  | dropWaiter _ =>
      cases hlive
      obtain ⟨waiters, monitors, sent, hsent, heq⟩ := removeDrainWaiter_frame _ s
      rw [heq]
      exact .silent rfl hsent
  | finish _ _ hjob htoken hgeneration hentry hstatus hsettle hdispatch =>
      rw [stopOrContinue_live hlive]
      obtain ⟨hcustody, hbinding⟩ :=
        (Settles.of_settle hsettle).custody h hjob htoken hgeneration hentry hstatus hdispatch
      exact .same hcustody hbinding
  | executorDown _ _ hjob hentry hstatus hdispatch =>
      rw [stopOrContinue_live hlive]
      obtain ⟨hcustody, hbinding⟩ := Settles.custody
        (s := startReleaseExecutor env (bump [.releaseExecutorRestarts] s)) (.inr ⟨_, _, rfl⟩)
        (h.congr rfl rfl rfl) hjob rfl rfl hentry hstatus hdispatch
      obtain ⟨hcustody', hbinding'⟩ := startReleaseExecutor_custody env [.releaseExecutorRestarts] s
      exact .same (hcustody.trans hcustody') (hbinding.trans hbinding')
  | executorDownLost _ _ _ _ =>
      cases hlive
      exact .same rfl (startReleaseExecutor_custody env [.releaseExecutorRestarts] s).2
  | executorDownIdle _ _ _ hdispatch =>
      cases hlive
      obtain ⟨hcustody, hbinding⟩ := dispatch_custody
        (s := startReleaseExecutor env (bump [.releaseExecutorRestarts] s)) h.mirrors hdispatch
      obtain ⟨hcustody', hbinding'⟩ := startReleaseExecutor_custody env [.releaseExecutorRestarts] s
      exact .same (hcustody.trans hcustody') (hbinding.trans hbinding')
  | retryCall hentry hfailed hrelease =>
      cases hlive
      obtain ⟨sent, hsent, heq⟩ := cancelRetryTimer_eq _ s
      rw [heq] at hrelease
      obtain ⟨hcustody, hbinding⟩ := retry_custody
        (s := { s with retryTimers := s.retryTimers.delete _, sent := sent }) (h.congr rfl rfl rfl)
        (hroster.settled _ _ hentry (by simp [hfailed])) hentry hfailed hrelease
      exact .same hcustody (hbinding.trans hsent.binding)
  | retryRefused _ =>
      cases hlive
      obtain ⟨sent, hsent, heq⟩ := cancelRetryTimer_eq _ s
      rw [heq]
      exact .silent rfl hsent
  | retryTimer _ _ hentry hfailed hrelease =>
      cases hlive
      obtain ⟨hcustody, hbinding⟩ := retry_custody
        (s := { s with retryTimers := s.retryTimers.delete _ }) (h.congr rfl rfl rfl)
        (hroster.settled _ _ hentry (by simp [hfailed])) hentry hfailed hrelease
      exact .same hcustody hbinding
  | staleTimer _ _ _ =>
      cases hlive
      exact .silent rfl (.refl _)
  | close =>
      unfold handleClose at hlive
      simp only at hlive
      split at hlive
      · cases hlive
      · cases hlive
        exact .silent rfl (.refl _)
  | producerDown _ =>
      unfold beginProducerDrain at hlive
      simp only at hlive
      split at hlive
      · cases hlive
      · cases hlive
        exact .silent rfl (.refl _)

end VideoInterop.LeaseOwner
