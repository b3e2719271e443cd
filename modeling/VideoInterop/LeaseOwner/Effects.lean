import VideoInterop.LeaseOwner.Network

/-!
# What one event can do, and what it must

The first part reads a change of the custody from its end: where a reservation, a
monitor, a pending issue or a pending retain comes from, and what a holder can lose its
place by.  A change may always be none at all, so the second part says of the events
that give something up that they do.
-/

namespace VideoInterop.LeaseOwner

namespace Custody

variable {env : Env} {event : Event} {C C' : Custody} {signals : List Signal}

/-! ## Origins -/

/-- What a holding becomes in one change. -/
structure Succeeds (env : Env) (event : Event) (token : Ref) (H H' : Holding) : Prop where
  /-- The root holder stays. -/
  root : H'.rootHolder = H.rootHolder
  /-- The issue stays pending unless it is confirmed. -/
  issue : H'.pendingIssue = H.pendingIssue ∨
    ∃ monitorRef requestRef, event = .info (.confirmIssue token requestRef) ∧
      H.pendingIssue = some (monitorRef, requestRef) ∧ H'.pendingIssue = none
  /-- A pending retain is old or just begun. -/
  retains : ∀ child p, H'.pendingRetains.fetch child = some p →
    H.pendingRetains.fetch child = some p ∨
      ∃ parent replyTo requestRef, event = .info (.retain token parent child replyTo requestRef) ∧
        p = (env.monitorRef, requestRef) ∧ child ∉ H.holders

theorem Succeeds.refl (token : Ref) (H : Holding) : Succeeds env event token H H :=
  ⟨rfl, .inl rfl, fun _ _ => .inl⟩

/-- The holding that a commit makes. -/
structure Issued (env : Env) (event : Event) (C C' : Custody) (H : Holding) : Prop where
  /-- It is of the commit that is handled, and waits for its confirmation. -/
  commit : ∃ reservation backendToken replyTo requestRef r,
    event = .info (.commitIssue reservation backendToken replyTo requestRef) ∧
      C.reservations.fetch requestRef = some r ∧ H.pendingIssue = some (r.monitorRef, requestRef) ∧
      C'.issues.fetch requestRef = some env.token
  /-- It has one holder. -/
  holders : H.holders = {env.holder}
  /-- That holder is the root. -/
  root : H.rootHolder = some env.holder
  /-- No retain is pending. -/
  retains : ∀ child, H.pendingRetains.fetch child = none

/-- A reservation is old, or it is asked for. -/
theorem Change.reservation (hchange : Change env event C signals C') {requestRef : Ref}
    {r : Reservation} (hr : C'.reservations.fetch requestRef = some r) :
    C.reservations.fetch requestRef = some r ∨
      ∃ metadata replyTo, event = .info (.reserveIssue metadata replyTo requestRef) ∧
        r.monitorRef = env.monitorRef ∧ r.reservation = env.reservation ∧ r.replyTo = replyTo := by
  have hdelete {q : Ref} (h : (C.reservations.delete q).fetch requestRef = some r) :
      C.reservations.fetch requestRef = some r := by
    rw [FMap.fetch_delete] at h
    split at h
    · cases h
    · exact h
  cases hchange with
  | same => exact .inl hr
  | drain _ => exact .inl hr
  | reserve hevent =>
      simp only [FMap.fetch_put] at hr
      split at hr
      · next heq =>
          cases hr
          exact .inr ⟨_, _, heq ▸ hevent, rfl, rfl, rfl⟩
      · exact .inl hr
  | vacate _ _ => exact .inl (hdelete hr)
  | issue _ _ _ _ => exact .inl (hdelete hr)
  | reject _ _ _ => exact .inl (hdelete hr)
  | confirmIssue _ _ _ => exact .inl hr
  | revoke _ _ _ _ => exact .inl hr
  | retain _ _ _ _ => exact .inl hr
  | confirmRetain _ _ _ => exact .inl hr
  | remove _ _ _ _ _ => exact .inl hr
  | removeLast _ _ _ _ => exact .inl hr

/-- A reservation is consumed, given up or made anew, or it stays. -/
theorem Change.keeps_reservation (hchange : Change env event C signals C') {requestRef : Ref}
    {r : Reservation} (hr : C.reservations.fetch requestRef = some r)
    (hvacates : ¬C.Vacates event requestRef)
    (hevent : ∀ message, event = .info message → message.requestRef? ≠ some requestRef) :
    C'.reservations.fetch requestRef = some r := by
  have hdelete {q : Ref} (hne : requestRef ≠ q) :
      (C.reservations.delete q).fetch requestRef = some r := by simp [hne, hr]
  cases hchange with
  | same => exact hr
  | drain _ => exact hr
  | @reserve metadata replyTo q hreserve =>
      have hne : requestRef ≠ q := by
        rintro rfl
        exact hevent _ hreserve rfl
      simp [hne, hr]
  | @vacate q _ hvacate _ =>
      refine hdelete ?_
      rintro rfl
      exact hvacates hvacate
  | issue hcommit _ _ _ =>
      refine hdelete ?_
      rintro rfl
      exact hevent _ hcommit rfl
  | reject hcommit _ _ =>
      refine hdelete ?_
      rintro rfl
      exact hevent _ hcommit rfl
  | confirmIssue _ _ _ => exact hr
  | revoke _ _ _ _ => exact hr
  | retain _ _ _ _ => exact hr
  | confirmRetain _ _ _ => exact hr
  | remove _ _ _ _ _ => exact hr
  | removeLast _ _ _ _ => exact hr

/-- A monitor is old, or a request makes it, or a commit takes over that of its
reservation. -/
theorem Change.origin (hchange : Change env event C signals C') {monitorRef : Ref}
    {target : MonitorTarget} (hwatch : C'.watches.fetch monitorRef = some target) :
    C.watches.fetch monitorRef = some target ∨
      (monitorRef = env.monitorRef ∧ signals.findSome? Signal.watch = some env.monitorRef ∧
        ((∃ metadata replyTo requestRef, event = .info (.reserveIssue metadata replyTo requestRef) ∧
            target = .reservation requestRef) ∨
          ∃ token parent child replyTo requestRef,
            event = .info (.retain token parent child replyTo requestRef) ∧
              target = .retain token child)) ∨
      ∃ reservation backendToken replyTo requestRef r,
        event = .info (.commitIssue reservation backendToken replyTo requestRef) ∧
          C.reservations.fetch requestRef = some r ∧ monitorRef = r.monitorRef ∧
          target = .issue env.token requestRef := by
  cases hchange with
  | same => exact .inl hwatch
  | drain _ => exact .inl hwatch
  | reserve hevent =>
      simp only [FMap.fetch_put] at hwatch
      split at hwatch
      · next heq =>
          cases hwatch
          exact .inr (.inl ⟨heq, rfl, .inl ⟨_, _, _, hevent, rfl⟩⟩)
      · exact .inl hwatch
  | vacate _ hwatches => exact .inl ((hwatches _ _).mp hwatch).1
  | issue hevent hr _ _ =>
      simp only [FMap.fetch_put] at hwatch
      split at hwatch
      · next heq =>
          cases hwatch
          exact .inr (.inr ⟨_, _, _, _, _, hevent, hr, heq, rfl⟩)
      · exact .inl hwatch
  | reject _ _ hwatches => exact .inl ((hwatches _ _).mp hwatch).1
  | confirmIssue _ _ _ => exact .inl ((FMap.Without.delete _ _ _ _).mp hwatch).1
  | revoke _ _ _ hwatches => exact .inl ((hwatches _ _).mp hwatch).1
  | retain hevent _ _ _ =>
      simp only [amended, FMap.fetch_put] at hwatch
      split at hwatch
      · next heq =>
          cases hwatch
          exact .inr (.inl ⟨heq, rfl, .inr ⟨_, _, _, _, _, hevent, rfl⟩⟩)
      · exact .inl hwatch
  | confirmRetain _ _ _ => exact .inl ((FMap.Without.delete _ _ _ _).mp hwatch).1
  | remove _ _ _ _ hwatches => exact .inl ((hwatches _ _).mp hwatch).1
  | removeLast _ _ _ hwatches => exact .inl ((hwatches _ _).mp hwatch).1

/-- A holding succeeds another, or a commit makes it. -/
theorem Change.holding (hchange : Change env event C signals C') {token : Ref} {H' : Holding}
    (hH' : C'.holdings token = some H') :
    (∃ H, C.holdings token = some H ∧ Succeeds env event token H H') ∨
      token = env.token ∧ Issued env event C C' H' := by
  have hupdate {t : Ref} {K : Option Holding}
      (h : Function.update C.holdings t K token = some H') :
      (token = t ∧ K = some H') ∨ C.holdings token = some H' := by
    by_cases ht : token = t
    · subst ht
      rw [Function.update_self] at h
      exact .inl ⟨rfl, h⟩
    · rw [Function.update_of_ne ht] at h
      exact .inr h
  have hold (h : C.holdings token = some H') :
      ∃ H, C.holdings token = some H ∧ Succeeds env event token H H' :=
    ⟨H', h, .refl token H'⟩
  cases hchange with
  | same => exact .inl (hold hH')
  | drain _ => exact .inl (hold hH')
  | reserve _ => exact .inl (hold hH')
  | vacate _ _ => exact .inl (hold hH')
  | issue hevent hr _ _ =>
      rcases hupdate hH' with ⟨rfl, hK⟩ | h
      · cases hK
        exact .inr ⟨rfl,
          ⟨⟨_, _, _, _, _, hevent, hr, rfl, FMap.fetch_put_self ..⟩, rfl, rfl, by simp⟩⟩
      · exact .inl (hold h)
  | reject _ _ _ => exact .inl (hold hH')
  | @confirmIssue _ _ _ H hevent hH hpending =>
      rcases hupdate hH' with ⟨rfl, hK⟩ | h
      · cases hK
        exact .inl ⟨H, hH, rfl, .inr ⟨_, _, hevent, hpending, rfl⟩, fun _ _ => .inl⟩
      · exact .inl (hold h)
  | revoke _ _ _ _ =>
      rcases hupdate hH' with ⟨-, hK⟩ | h
      · cases hK
      · exact .inl (hold h)
  | @retain _ _ _ _ _ H _ hevent hH _ hchild =>
      rcases hupdate hH' with ⟨rfl, hK⟩ | h
      · cases hK
        refine .inl ⟨H, hH, rfl, .inl rfl, fun child p hp => ?_⟩
        simp only [FMap.fetch_put] at hp
        split at hp
        · next heq =>
            subst heq
            cases hp
            exact .inr ⟨_, _, _, hevent, rfl, hchild⟩
        · exact .inl hp
      · exact .inl (hold h)
  | @confirmRetain _ _ _ _ H _ hH _ =>
      rcases hupdate hH' with ⟨rfl, hK⟩ | h
      · cases hK
        refine .inl ⟨H, hH, rfl, .inl rfl, fun child p hp => .inl ?_⟩
        exact ((FMap.Without.delete _ _ _ _).mp hp).1
      · exact .inl (hold h)
  | @remove _ _ H _ _ hH _ _ _ =>
      rcases hupdate hH' with ⟨rfl, hK⟩ | h
      · cases hK
        refine .inl ⟨H, hH, rfl, .inl rfl, fun child p hp => .inl ?_⟩
        exact ((FMap.Without.delete _ _ _ _).mp hp).1
      · exact .inl (hold h)
  | removeLast _ _ _ _ =>
      rcases hupdate hH' with ⟨-, hK⟩ | h
      · cases hK
      · exact .inl (hold h)

/-- The index of a pending issue is deleted with a confirmation or with the lease. -/
theorem Change.keeps_issue (hchange : Change env event C signals C') {requestRef token : Ref}
    (hissue : C.issues.fetch requestRef = some token)
    (hcommit : ∀ reservation backendToken replyTo,
      event ≠ .info (.commitIssue reservation backendToken replyTo requestRef)) :
    C'.issues.fetch requestRef = some token ∨
      (∃ t, event = .info (.confirmIssue t requestRef)) ∨
      ∃ t H monitorRef, C.holdings t = some H ∧ H.pendingIssue = some (monitorRef, requestRef) ∧
        C'.holdings t = none := by
  have hdelete {q : Ref} (hne : requestRef ≠ q) :
      (C.issues.delete q).fetch requestRef = some token := by simp [hne, hissue]
  have hdismissed {t : Ref} {H : Holding} {watches : FMap Ref MonitorTarget}
      (hH : C.holdings t = some H) :
      (C.dismissed t H watches).issues.fetch requestRef = some token ∨
        ∃ t' H' m, C.holdings t' = some H' ∧ H'.pendingIssue = some (m, requestRef) ∧
          (C.dismissed t H watches).holdings t' = none := by
    unfold dismissed
    cases hpending : H.pendingIssue with
    | none => exact .inl hissue
    | some p =>
        by_cases heq : requestRef = p.2
        · exact .inr ⟨t, H, p.1, hH, by rw [hpending, heq], Function.update_self ..⟩
        · exact .inl (hdelete heq)
  cases hchange with
  | same => exact .inl hissue
  | drain _ => exact .inl hissue
  | reserve _ => exact .inl hissue
  | vacate _ _ => exact .inl hissue
  | @issue _ _ _ q _ _ hevent _ _ _ =>
      have hne : requestRef ≠ q := by
        rintro rfl
        exact hcommit _ _ _ hevent
      exact .inl (by simp [hne, hissue])
  | reject _ _ _ => exact .inl hissue
  | @confirmIssue t q _ _ hevent _ _ =>
      by_cases heq : requestRef = q
      · exact .inr (.inl ⟨t, heq ▸ hevent⟩)
      · exact .inl (hdelete heq)
  | revoke _ hH _ _ => exact (hdismissed hH).imp id .inr
  | retain _ _ _ _ => exact .inl hissue
  | confirmRetain _ _ _ => exact .inl hissue
  | remove _ _ _ _ _ => exact .inl hissue
  | removeLast _ hH _ _ => exact (hdismissed hH).imp id .inr

/-- A holder that is not removed, of a lease that is not revoked, keeps its place. -/
theorem Change.keeps_holder (hchange : Change env event C signals C') {token holder : Ref}
    {H : Holding} (hH : C.holdings token = some H) (hholder : holder ∈ H.holders)
    (hunheld : C.holdings env.token = none) (hrevokes : ¬C.Revokes event token)
    (hremoves : ¬C.Removes event token H holder) :
    ∃ H', C'.holdings token = some H' ∧ holder ∈ H'.holders ∧ Succeeds env event token H H' := by
  have hne : token ≠ env.token := by
    rintro rfl
    rw [hunheld] at hH
    cases hH
  -- Whatever the change makes of the lease, the lease comes from here.
  have comes (h : ∃ H', C'.holdings token = some H' ∧ holder ∈ H'.holders) :
      ∃ H', C'.holdings token = some H' ∧ holder ∈ H'.holders ∧ Succeeds env event token H H' := by
    obtain ⟨H', hH', hmem⟩ := h
    rcases hchange.holding hH' with ⟨K, hK, hnext⟩ | ⟨rfl, -⟩
    · rw [hH] at hK
      cases hK
      exact ⟨H', hH', hmem, hnext⟩
    · exact absurd rfl hne
  have hupdate {t : Ref} {K : Option Holding}
      (hsame : t = token → ∃ H', K = some H' ∧ holder ∈ H'.holders) :
      ∃ H', Function.update C.holdings t K token = some H' ∧ holder ∈ H'.holders := by
    by_cases ht : token = t
    · subst ht
      rw [Function.update_self]
      exact hsame rfl
    · rw [Function.update_of_ne ht]
      exact ⟨H, hH, hholder⟩
  have hfind {t : Ref} {K : Holding} (hK : C.holdings t = some K) (ht : t = token) : K = H := by
    subst ht
    rw [hH] at hK
    exact (Option.some.inj hK).symm
  refine comes ?_
  cases hchange with
  | same => exact ⟨H, hH, hholder⟩
  | drain _ => exact ⟨H, hH, hholder⟩
  | reserve _ => exact ⟨H, hH, hholder⟩
  | vacate _ _ => exact ⟨H, hH, hholder⟩
  | issue _ _ _ _ => exact hupdate fun ht => absurd ht.symm hne
  | reject _ _ _ => exact ⟨H, hH, hholder⟩
  | confirmIssue _ hK _ =>
      refine hupdate fun ht => ⟨_, rfl, ?_⟩
      rw [hfind hK ht]
      exact hholder
  | revoke hevent _ _ _ => exact hupdate fun ht => absurd (ht ▸ hevent) hrevokes
  | retain _ hK _ _ =>
      refine hupdate fun ht => ⟨_, rfl, ?_⟩
      rw [hfind hK ht]
      exact Finset.mem_insert_of_mem hholder
  | confirmRetain _ hK _ =>
      refine hupdate fun ht => ⟨_, rfl, ?_⟩
      rw [hfind hK ht]
      exact hholder
  | @remove t gone K _ hevent hK _ _ _ =>
      refine hupdate fun ht => ⟨_, rfl, ?_⟩
      obtain rfl := hfind hK ht
      refine Finset.mem_erase.mpr ⟨?_, hholder⟩
      rintro rfl
      exact hremoves (ht ▸ hevent)
  | @removeLast t gone K _ hevent hK hlast _ =>
      refine hupdate fun ht => absurd (ht ▸ hevent) ?_
      obtain rfl := hfind hK ht
      rw [hlast] at hholder
      rw [← Finset.mem_singleton.mp hholder]
      exact hremoves

/-- Who is granted something asked for it. -/
theorem Change.granted (hchange : Change env event C signals C') {replyTo requestRef : Ref}
    {answer : Reply} (hmem : .reply replyTo requestRef answer ∈ signals) :
    (∃ metadata, event = .info (.reserveIssue metadata replyTo requestRef) ∧
        answer = .issueReserved (.ok env.reservation) ∧
        ∃ r, C'.reservations.fetch requestRef = some r ∧ r.reservation = env.reservation) ∨
      (∃ reservation backendToken lease,
        event = .info (.commitIssue reservation backendToken replyTo requestRef) ∧
          answer = .issued (.ok lease) ∧ lease.token = env.token ∧ lease.holder = env.holder ∧
          ∃ H, C'.holdings env.token = some H) ∨
      ∃ token parent child guard H,
        event = .info (.retain token parent child replyTo requestRef) ∧
          answer = .retained (.ok guard) ∧ C'.holdings token = some H ∧ child ∈ H.holders := by
  cases hchange with
  | same => simp at hmem
  | drain _ => simp at hmem
  | reserve hevent =>
      simp only [List.mem_cons, reduceCtorEq, Signal.reply.injEq, List.not_mem_nil, or_false,
        false_or] at hmem
      obtain ⟨rfl, rfl, rfl⟩ := hmem
      exact .inl ⟨_, hevent, rfl, _, FMap.fetch_put_self .., rfl⟩
  | vacate _ _ => simp at hmem
  | issue hevent _ htoken hholder =>
      simp only [List.mem_singleton, Signal.reply.injEq] at hmem
      obtain ⟨rfl, rfl, rfl⟩ := hmem
      exact .inr (.inl ⟨_, _, _, hevent, rfl, htoken, hholder, _, Function.update_self ..⟩)
  | reject _ _ _ => simp at hmem
  | confirmIssue _ _ _ => simp at hmem
  | revoke _ _ _ _ => simp at hmem
  | @retain token _ child _ _ H _ hevent _ _ _ =>
      simp only [List.mem_cons, reduceCtorEq, Signal.reply.injEq, List.not_mem_nil, or_false,
        false_or] at hmem
      obtain ⟨rfl, rfl, rfl⟩ := hmem
      exact .inr (.inr ⟨_, _, _, _, _, hevent, rfl, Function.update_self ..,
        Finset.mem_insert_self ..⟩)
  | confirmRetain _ _ _ => simp at hmem
  | remove _ _ _ _ _ => simp at hmem
  | removeLast _ _ _ _ => simp at hmem

/-- A change makes no monitor but the event's. -/
theorem Change.made (hchange : Change env event C signals C') {monitorRef : Ref}
    (hwatch : signals.findSome? Signal.watch = some monitorRef) : monitorRef = env.monitorRef := by
  cases hchange with
  | drain _ =>
      cases hwatch
      rfl
  | reserve _ =>
      cases hwatch
      rfl
  | retain _ _ _ _ =>
      cases hwatch
      rfl
  | _ => cases hwatch

end Custody

/-! ## Effects -/

variable {env : Env} {s s' : State} {token requestRef : Ref}

theorem handleInfo_cancelReservation
    (hlive : (handleInfo env (.cancelIssueReservation requestRef) s).live? = some s') :
    s'.issueReservations.fetch requestRef = none := by
  rw [stopOrContinue_live hlive]
  unfold removeIssueReservation
  split
  · simp
  · next hnone => exact hnone

/-- A commit that finds no reservation of its own stops the owner. -/
theorem handleInfo_commit {reservation : Ref} {backendToken : Term} {replyTo : Pid}
    (hlive : (handleInfo env (.commitIssue reservation backendToken replyTo requestRef) s).live? =
      some s') : s'.issueReservations.fetch requestRef = none := by
  simp only [handleInfo, handleCommitIssue] at hlive
  split at hlive
  · split at hlive
    · unfold commitIssue at hlive
      split at hlive
      · rw [continueAfterGuardReply_live] at hlive
        cases hlive
        simp [replyIssue, State.send, State.updateCounter]
      · unfold rejectIssue at hlive
        simp only at hlive
        split at hlive
        · next hrelease =>
            cases hlive
            obtain ⟨_, _, _, _, _, rfl⟩ := releaseEntry_frame hrelease
            simp [dropProtocolMonitor, State.send]
        · cases hlive
    · cases hlive
  · cases hlive

/-- A lease that is queued for its release is not active any more. -/
theorem releaseEntry_inactive {entry : Entry} {isRetry : Bool} {waiter : Option Waiter}
    (hrelease : releaseEntry env token entry s isRetry waiter = some s') :
    s'.custody.holdings token = none := by
  obtain ⟨sent, -, heq⟩ := releaseEntry_eq env token entry s isRetry waiter
  rw [heq] at hrelease
  rcases dispatchNextRelease_cases hrelease with
    ⟨rfl, -⟩ | ⟨job, rest, entry', -, -, -, rfl⟩
  · simp [State.custody, State.enqueueRelease, Entry.holding?, Entry.queued]
  · by_cases ht : token = job.token
    · simp [State.custody, ht, Entry.holding?]
    · simp [State.custody, ht, State.enqueueRelease, Entry.holding?, Entry.queued]

theorem cancelPendingIssue_inactive {H : Holding} {p : Ref × Ref}
    (hH : s.custody.holdings token = some H) (hpending : H.pendingIssue = some p)
    (hlive : (cancelPendingIssue env token s).live? = some s') :
    s'.custody.holdings token = none := by
  obtain ⟨entry, hentry, hactive, rfl⟩ := holdings_some hH
  have hpending' : entry.pendingIssue = some p := hpending
  simp only [cancelPendingIssue, hentry, hactive, hpending'] at hlive
  split at hlive
  · next hrelease =>
      rw [stopOrContinue_live hlive]
      exact releaseEntry_inactive hrelease
  · cases hlive

/-- A cancelled issue leaves no active lease. -/
theorem handleInfo_cancelIssue (h : s.custody.Sound)
    (hissue : s.custody.issues.fetch requestRef = some token)
    (hlive : (handleInfo env (.cancelIssue requestRef) s).live? = some s') :
    s'.custody.holdings token = none := by
  obtain ⟨H, monitorRef, hH, hpending⟩ := h.index requestRef token hissue
  have hissue' : s.pendingIssues.fetch requestRef = some token := hissue
  simp only [handleInfo, handleCancelIssue, hissue'] at hlive
  exact cancelPendingIssue_inactive hH hpending hlive

/-- A confirmed issue is not pending. -/
theorem handleInfo_confirmIssue {H : Holding} {monitorRef : Ref}
    (hlive : (handleInfo env (.confirmIssue token requestRef) s).live? = some s')
    (hH : s'.custody.holdings token = some H) :
    H.pendingIssue ≠ some (monitorRef, requestRef) := by
  intro hpending
  obtain ⟨entry', hentry', hactive', rfl⟩ := holdings_some hH
  have hpending' : entry'.pendingIssue = some (monitorRef, requestRef) := hpending
  simp only [handleInfo, handleConfirmIssue] at hlive
  split at hlive
  · next entry hentry =>
      split at hlive
      · next m q hactive hissue =>
          split at hlive
          · obtain ⟨sent, -, heq⟩ := clearPendingIssue_eq entry s
            rw [heq] at hlive
            cases hlive
            simp only [FMap.fetch_put_self, Option.some.injEq] at hentry'
            subst hentry'
            cases hpending'
          · next hne =>
              cases hlive
              rw [hentry] at hentry'
              cases hentry'
              rw [hissue] at hpending'
              cases hpending'
              exact hne rfl
      · next hother =>
          cases hlive
          rw [hentry] at hentry'
          cases hentry'
          exact hother _ _ hactive' hpending'
  · next hnone =>
      cases hlive
      rw [hnone] at hentry'
      cases hentry'

/-- A confirmed retain is not pending. -/
theorem handleInfo_confirmRetain {child : Ref} {H : Holding} {monitorRef : Ref}
    (hlive : (handleInfo env (.confirmRetain token child requestRef) s).live? = some s')
    (hH : s'.custody.holdings token = some H) :
    H.pendingRetains.fetch child ≠ some (monitorRef, requestRef) := by
  intro hpending
  obtain ⟨entry', hentry', hactive', rfl⟩ := holdings_some hH
  have hpending' : entry'.pendingRetains.fetch child = some (monitorRef, requestRef) := hpending
  simp only [handleInfo, handleConfirmRetain] at hlive
  split at hlive
  · next entry hentry =>
      split at hlive
      · next m q hactive hretain =>
          split at hlive
          · cases hlive
            simp only [FMap.fetch_put_self, Option.some.injEq] at hentry'
            subst hentry'
            simp at hpending'
          · next hne =>
              cases hlive
              rw [hentry] at hentry'
              cases hentry'
              rw [hretain] at hpending'
              cases hpending'
              exact hne rfl
      · next hother =>
          cases hlive
          rw [hentry] at hentry'
          cases hentry'
          exact hother _ _ hactive' hpending'
  · next hnone =>
      cases hlive
      rw [hnone] at hentry'
      cases hentry'

/-- A holder that is removed has no pending retain. -/
theorem removeHolder_settled {holder : Ref} {entry : Entry} {H : Holding} (s₁ : State)
    (hlive : (removeHolder env token holder entry s₁).live? = some s')
    (hnone : entry.pendingRetains.fetch holder = none)
    (hleave : holder ∉ entry.holders → ∀ K, s₁.custody.holdings token = some K →
      K.pendingRetains.fetch holder = none)
    (hH : s'.custody.holdings token = some H) : H.pendingRetains.fetch holder = none := by
  unfold removeHolder at hlive
  split at hlive
  · simp only at hlive
    split at hlive
    · split at hlive
      · next hrelease =>
          rw [stopOrContinue_live hlive, releaseEntry_inactive hrelease] at hH
          cases hH
      · cases hlive
    · cases hlive
      obtain ⟨entry', hentry', -, rfl⟩ := holdings_some hH
      simp only [FMap.fetch_put_self, Option.some.injEq] at hentry'
      subst hentry'
      exact hnone
  · next hholder =>
      cases hlive
      exact hleave hholder H hH

/-- A cancelled retain is not pending. -/
theorem handleInfo_cancelRetain {child : Ref} {H : Holding} (h : s.custody.Sound)
    (hroot : ∀ K, s.custody.holdings token = some K → K.rootHolder ≠ some child)
    (hlive : (handleInfo env (.cancelRetain token child) s).live? = some s')
    (hH : s'.custody.holdings token = some H) : H.pendingRetains.fetch child = none := by
  have hkeeps {sent : List Signal} {monitors : FMap Ref MonitorTarget} {counters : CounterKey → Nat}
      {K : Holding} (hK : ({ s with
        protocolMonitors := monitors, sent := sent, counters := counters } : State).custody.holdings
          token = some K) : s.custody.holdings token = some K := hK
  simp only [handleInfo, handleCancelRetain] at hlive
  split at hlive
  · next entry hentry =>
      have hentry' : s.leases.fetch token = some entry := hentry
      split at hlive
      · next hactive =>
          have hheld := custody_holding hentry' hactive
          have hne : some child ≠ entry.rootHolder := Ne.symm (hroot _ hheld)
          rw [if_pos hne] at hlive
          obtain ⟨sent, -, heq⟩ := clearPendingRetain_eq child entry
            (s.updateCounter .retainCancellations 1)
          rw [heq] at hlive
          refine removeHolder_settled _ hlive (by simp) (fun hholder K hK => ?_) hH
          cases hpending : K.pendingRetains.fetch child with
          | none => rfl
          | some p =>
              rw [hkeeps hK] at hheld
              cases hheld
              exact absurd (h.pending token _ child p (hkeeps hK) hpending) hholder
      · next hinactive =>
          cases hlive
          have hH' : s.custody.holdings token = some H := hH
          obtain ⟨entry', hentry'', hactive, -⟩ := holdings_some hH'
          rw [hentry'] at hentry''
          cases hentry''
          exact absurd hactive hinactive
  · next hnone =>
      cases hlive
      obtain ⟨entry', hentry', -, -⟩ := holdings_some hH
      rw [hnone] at hentry'
      cases hentry'

/-! ## Monitors that fired -/

variable {monitorRef : Ref}

theorem Without.fetch_none {m m' : FMap Ref MonitorTarget} {gone : Ref → Prop}
    (h : m.Without gone m') (hnone : m.fetch monitorRef = none) : m'.fetch monitorRef = none := by
  refine Option.eq_none_iff_forall_ne_some.mpr fun target hwatch => ?_
  rw [((h _ _).mp hwatch).1] at hnone
  cases hnone

theorem releaseEntry_unwatched {entry : Entry} {isRetry : Bool} {waiter : Option Waiter}
    (hrelease : releaseEntry env token entry s isRetry waiter = some s')
    (hnone : s.protocolMonitors.fetch monitorRef = none) :
    s'.protocolMonitors.fetch monitorRef = none := by
  obtain ⟨_, _, _, _, _, rfl⟩ := releaseEntry_frame hrelease
  exact Without.fetch_none (monitorsWithout_spec env entry s.protocolMonitors) hnone

theorem removeHolder_unwatched {holder : Ref} {entry : Entry}
    (hlive : (removeHolder env token holder entry s).live? = some s')
    (hnone : s.protocolMonitors.fetch monitorRef = none) :
    s'.protocolMonitors.fetch monitorRef = none := by
  unfold removeHolder at hlive
  split at hlive
  · simp only at hlive
    split at hlive
    · split at hlive
      · next hrelease =>
          rw [stopOrContinue_live hlive]
          exact releaseEntry_unwatched hrelease hnone
      · cases hlive
    · cases hlive
      exact hnone
  · cases hlive
    exact hnone

theorem cancelPendingIssue_unwatched (hlive : (cancelPendingIssue env token s).live? = some s')
    (hnone : s.protocolMonitors.fetch monitorRef = none) :
    s'.protocolMonitors.fetch monitorRef = none := by
  unfold cancelPendingIssue at hlive
  split at hlive
  · next entry hentry =>
      split at hlive
      · obtain ⟨sent, -, heq⟩ := clearPendingIssue_eq entry s
        rw [heq] at hlive
        simp only at hlive
        split at hlive
        · next hrelease =>
            rw [stopOrContinue_live hlive]
            refine releaseEntry_unwatched hrelease ?_
            exact Without.fetch_none (monitorsWithoutIssue_spec entry s.protocolMonitors) hnone
        · cases hlive
      · cases hlive
        exact hnone
  · cases hlive
    exact hnone

/-- A monitor of the two protocols that fired is gone. -/
theorem handleInfo_down {reason : Term} {target : MonitorTarget}
    (hwatch : s.protocolMonitors.fetch monitorRef = some target)
    (hproducer : some monitorRef ≠ s.producerMonitor)
    (hexecutor : monitorRef ≠ s.releaseExecutorMonitor)
    (hlive : (handleInfo env (.down (some monitorRef) reason) s).live? = some s') :
    s'.protocolMonitors.fetch monitorRef = none := by
  simp only [handleInfo, handleDown, if_neg hproducer, if_neg hexecutor, hwatch,
    handleProtocolDown] at hlive
  have hgone : (s.protocolMonitors.delete monitorRef).fetch monitorRef = none := by simp
  split at hlive
  · rw [stopOrContinue_live hlive]
    unfold removeIssueReservation
    split
    · simp
    · exact hgone
  · rw [stopOrContinue_live hlive]
    unfold removeIssueReservation
    split
    · simp
    · exact hgone
  · split at hlive
    · split at hlive
      · exact removeHolder_unwatched hlive hgone
      · cases hlive
        exact hgone
    · cases hlive
      exact hgone
  · exact cancelPendingIssue_unwatched hlive hgone

theorem Rewired.monitors {w w' : Wiring} (h : Rewired env w w') :
    (w'.producerMonitor = none ∨ w'.producerMonitor = w.producerMonitor) ∧
      (w'.executorMonitor = w.executorMonitor ∨ w'.executorMonitor = env.executorMonitor) := by
  cases h with
  | same => exact ⟨.inr rfl, .inl rfl⟩
  | orphaned => exact ⟨.inl rfl, .inl rfl⟩
  | replaced => exact ⟨.inr rfl, .inr rfl⟩

/-- The monitors of the protocols are neither the producer's nor the executor's. -/
structure Owner.Aside (o : Owner) : Prop where
  /-- No client has the monitor of the producer. -/
  producer : ∀ monitorRef target, o.state.custody.watches.fetch monitorRef = some target →
    some monitorRef ≠ o.state.producerMonitor
  /-- No client has the monitor of the executor. -/
  executor : ∀ monitorRef target, o.state.custody.watches.fetch monitorRef = some target →
    monitorRef ≠ o.state.releaseExecutorMonitor

theorem Owner.Run.aside {visits : List (Visit Owner Input)} {o : Owner} (h : Owner.Run visits o) :
    o.Aside := by
  refine h.history (P := fun _ o => o.Aside) ?_ ?_
  · rintro o ⟨env, self, opts, hinit, -⟩
    have hcustody := init_custody hinit
    refine ⟨fun m t hm => ?_, fun m t hm => ?_⟩ <;>
      · rw [hcustody] at hm
        simp at hm
  · intro visits o i o' hrun ih hst
    have hw := hrun.watched
    have hapart := Owner.Reachable.apart ⟨_, hrun⟩
    obtain ⟨signals, hchange, -⟩ := hst.change hrun hw
    have hrewired : Rewired i.env o.state.wiring o'.state.wiring :=
      (outcome_transition o.state i).rewired hst.live
    have horigin (m : Ref) (t : MonitorTarget)
        (hm : o'.state.custody.watches.fetch m = some t) :
        (∃ t', o.state.custody.watches.fetch m = some t') ∨ m = i.env.monitorRef :=
      hchange.watch hw.sound hm
    have hmade := (hst.made (k := 1) (by omega)).1
    have hmade' := (hst.made (k := 7) (by omega)).1
    obtain ⟨hproducer, hexecutor⟩ := hrewired.monitors
    refine ⟨fun m t hm heq => ?_, fun m t hm heq => ?_⟩
    · rcases hproducer with hnone | hsame
      · rw [show o'.state.producerMonitor = none from hnone] at heq
        cases heq
      · have heq' : o.state.producerMonitor = some m := hsame.symm.trans heq.symm
        rcases horigin m t hm with ⟨t', hold⟩ | rfl
        · exact ih.producer m t' hold heq'.symm
        · exact Nat.not_lt.mpr hmade (hapart.producerMonitor _ heq').1
    · rcases hexecutor with hsame | hnew
      · have heq' : m = o.state.releaseExecutorMonitor := heq.trans hsame
        rcases horigin m t hm with ⟨t', hold⟩ | rfl
        · exact ih.executor m t' hold heq'
        · have hlt : o.state.releaseExecutorMonitor < o.supply := hapart.executorMonitor
          rw [← heq'] at hlt
          exact Nat.not_lt.mpr hmade hlt
      · have heq' : m = i.env.executorMonitor := heq.trans hnew
        rcases horigin m t hm with ⟨t', hold⟩ | rfl
        · have hlt := hw.lt m t' hold
          rw [heq'] at hlt
          exact Nat.not_lt.mpr hmade' hlt
        · have hne : i.env.supply + 1 = i.env.supply + 7 := heq'
          omega

/-- A monitor of the protocols that fired is gone from an owner that lives on. -/
theorem Owner.Step.fired {visits : List (Visit Owner Input)} {o o' : Owner} {i : Input}
    (hrun : Owner.Run visits o) (hst : Owner.Step o i o') (hevent : Fired i.event monitorRef) :
    o'.state.custody.watches.fetch monitorRef = none := by
  have hw := hrun.watched
  obtain ⟨reason, hreason⟩ := hevent
  cases hwatch : o.state.custody.watches.fetch monitorRef with
  | some target =>
      have hlive := hst.live
      rw [outcome, hreason] at hlive
      exact handleInfo_down (s := { o.state with sent := [] }) hwatch
        (hrun.aside.producer _ _ hwatch) (hrun.aside.executor _ _ hwatch) hlive
  | none =>
      obtain ⟨signals, hchange, -⟩ := hst.change hrun hw
      refine Option.eq_none_iff_forall_ne_some.mpr fun target hm => ?_
      rcases hchange.origin hm with hold | ⟨rfl, -, hmade | hmade⟩ | ⟨_, _, _, _, _, hcommit, -⟩
      · rw [hwatch] at hold
        cases hold
      · obtain ⟨_, _, _, hreserve, -⟩ := hmade
        rw [hreason] at hreserve
        cases hreserve
      · obtain ⟨_, _, _, _, _, hretain, -⟩ := hmade
        rw [hreason] at hretain
        cases hretain
      · rw [hreason] at hcommit
        cases hcommit

end VideoInterop.LeaseOwner
