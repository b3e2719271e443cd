import VideoInterop.LeaseOwner.Drain

/-!
# What the owner owes

A request is answered at once, or its answer waits in a release job.  A drain
waiter is in a table of its own.  `Mail` is this part of the state, and a
`Letter` is one thing that happens to it.  A callback is a list of letters: what
came in is taken once, what waited is settled or still waits.

The functions under the callbacks come first, each with the letters it sends.
-/

namespace VideoInterop.LeaseOwner

/-! ## Requests -/

/-- A request that is owed one answer. -/
inductive Request where
  | reserve (requestRef : Ref)
  | issue (requestRef : Ref)
  | retain (requestRef : Ref)
  | retry (caller : Caller)
deriving DecidableEq

/-- The request a waiter stands for. -/
def Waiter.request : Waiter → Request
  | .retry caller => .retry caller
  | .issue _ requestRef _ => .issue requestRef

/-- The request a job's outcome is the answer of. -/
def Job.deferred (job : Job) : Option Request := job.waiter.map Waiter.request

/-- The running job and the queued ones. -/
def State.jobs (s : State) : List Job := s.releaseJob.toList.map RunningJob.toJob ++ s.releaseQueue

/-- The requests whose answer waits for a release. -/
def State.deferred (s : State) : List Request := s.jobs.filterMap Job.deferred

/-- The request a signal answers. -/
def Signal.answers : Signal → Option Request
  | .reply _ requestRef (.issueReserved _) => some (.reserve requestRef)
  | .reply _ requestRef (.issued _) => some (.issue requestRef)
  | .reply _ requestRef (.retained _) => some (.retain requestRef)
  | .callReply caller _ => some (.retry caller)
  | _ => none

/-- The drain waiter a signal answers. -/
def Signal.drained : Signal → Option Ref
  | .reply _ requestRef (.drained _) => some requestRef
  | _ => none

/-- A drain waiter: its request, process and monitor. -/
abbrev DrainWaiter := Ref × Pid × Ref

/-- What the owner owes. -/
structure Mail where
  /-- The requests whose answer is the outcome of a job, the running job first. -/
  deferred : List Request
  /-- Process and monitor of each drain request that waits. -/
  waiters : FMap Ref (Pid × Ref)
  /-- The drain request of each monitor. -/
  monitors : FMap Ref Ref

/-- One thing that happens to it. -/
inductive Letter where
  /-- A request is taken and answered at once. -/
  | answer (r : Request)
  /-- A request is taken, and its answer will be the outcome of a job. -/
  | defer (r : Request)
  /-- The job that has a request's answer ended. -/
  | settle (r : Request)
  /-- A drain waiter begins to wait. -/
  | join (x : DrainWaiter)
  /-- A drain waiter is answered. -/
  | reply (x : DrainWaiter)
  /-- A drain waiter leaves without an answer. -/
  | drop (x : DrainWaiter)

namespace Letter

/-- The request that is taken. -/
def taken : Letter → Option Request
  | .answer r | .defer r => some r
  | _ => none

/-- The request whose answer is to come. -/
def deferred : Letter → Option Request
  | .defer r => some r
  | _ => none

/-- The request whose job ended. -/
def settled : Letter → Option Request
  | .settle r => some r
  | _ => none

/-- The request that is answered. -/
def answered : Letter → Option Request
  | .answer r | .settle r => some r
  | _ => none

/-- The drain waiter that begins to wait. -/
def joined : Letter → Option DrainWaiter
  | .join x => some x
  | _ => none

/-- The drain waiter that is answered. -/
def replied : Letter → Option DrainWaiter
  | .reply x => some x
  | _ => none

/-- The drain waiter that leaves without an answer. -/
def dropped : Letter → Option DrainWaiter
  | .drop x => some x
  | _ => none

/-- A drain waiter leaves. -/
def left : Letter → Option DrainWaiter
  | .reply x | .drop x => some x
  | _ => none

end Letter

namespace Mail

/-- The table and its index once a drain waiter has left. -/
def without (M : Mail) (x : DrainWaiter) : Mail :=
  { M with waiters := M.waiters.delete x.1, monitors := M.monitors.delete x.2.2 }

/-- What a letter does. -/
inductive Step (M : Mail) : Letter → Mail → Prop where
  | answer {r} : Step M (.answer r) M
  | defer {r} : Step M (.defer r) { M with deferred := M.deferred ++ [r] }
  | settle {r rest} (hr : M.deferred = r :: rest) :
      Step M (.settle r) { M with deferred := rest }
  | join {x} (hwaiter : M.waiters.fetch x.1 = none) (hmonitor : M.monitors.fetch x.2.2 = none) :
      Step M (.join x)
        { M with waiters := M.waiters.put x.1 x.2, monitors := M.monitors.put x.2.2 x.1 }
  | reply {x} (hx : M.waiters.fetch x.1 = some x.2) : Step M (.reply x) (M.without x)
  | drop {x} (hx : M.waiters.fetch x.1 = some x.2) : Step M (.drop x) (M.without x)

/-- The index of the monitors is the table's. -/
def Sound (M : Mail) : Prop :=
  ∀ monitorRef requestRef, M.monitors.fetch monitorRef = some requestRef ↔
    ∃ process, M.waiters.fetch requestRef = some (process, monitorRef)

variable {M M' : Mail} {letter : Letter} {letters : List Letter}

theorem Sound.without (h : Sound M) {x : DrainWaiter} (hx : M.waiters.fetch x.1 = some x.2) :
    Sound (M.without x) := by
  intro monitorRef requestRef
  have hm := h monitorRef requestRef
  show (M.monitors.delete x.2.2).fetch monitorRef = some requestRef ↔
    ∃ process, (M.waiters.delete x.1).fetch requestRef = some (process, monitorRef)
  rw [FMap.fetch_delete, FMap.fetch_delete]
  by_cases hmonitor : monitorRef = x.2.2
  · -- The monitor of `x` is no other waiter's.
    have hown : M.monitors.fetch x.2.2 = some x.1 := (h _ _).mpr ⟨x.2.1, hx⟩
    rw [if_pos hmonitor]
    refine ⟨fun h => (by cases h), ?_⟩
    rintro ⟨process, hprocess⟩
    split at hprocess
    · cases hprocess
    · next hne =>
        have hother := hm.mpr ⟨process, hprocess⟩
        rw [hmonitor, hown] at hother
        exact absurd (Option.some.inj hother).symm hne
  · rw [if_neg hmonitor]
    by_cases hrequest : requestRef = x.1
    · rw [if_pos hrequest, hm, hrequest, hx]
      refine ⟨?_, fun ⟨_, h⟩ => by cases h⟩
      rintro ⟨process, hprocess⟩
      exact absurd (congrArg Prod.snd (Option.some.inj hprocess)).symm hmonitor
    · rw [if_neg hrequest, hm]

theorem Step.sound (h : Sound M) (hst : Step M letter M') : Sound M' := by
  cases hst with
  | answer => exact h
  | defer => exact h
  | settle _ => exact h
  | @join x hwaiter hmonitor =>
      intro monitorRef requestRef
      have hm := h monitorRef requestRef
      show (M.monitors.put x.2.2 x.1).fetch monitorRef = some requestRef ↔
        ∃ process, (M.waiters.put x.1 x.2).fetch requestRef = some (process, monitorRef)
      rw [FMap.fetch_put, FMap.fetch_put]
      by_cases hrequest : requestRef = x.1
      · subst hrequest
        rw [hwaiter] at hm
        by_cases heq : monitorRef = x.2.2
        · rw [if_pos heq, if_pos rfl, heq]
          exact ⟨fun _ => ⟨x.2.1, rfl⟩, fun _ => rfl⟩
        · rw [if_neg heq, if_pos rfl, hm]
          refine ⟨fun ⟨_, h⟩ => (by cases h), ?_⟩
          rintro ⟨process, hprocess⟩
          exact absurd (congrArg Prod.snd (Option.some.inj hprocess)).symm heq
      · by_cases heq : monitorRef = x.2.2
        · rw [if_pos heq, if_neg hrequest, ← hm, heq, hmonitor]
          refine ⟨fun h => absurd (Option.some.inj h).symm hrequest, fun h => by cases h⟩
        · rw [if_neg heq, if_neg hrequest, hm]
  | reply hx => exact h.without hx
  | drop hx => exact h.without hx

/-! ## Double entry -/

/-- The answers that are due. -/
def due (M : Mail) : Multiset Request := M.deferred

/-- Who waits for the drain. -/
def room (M : Mail) : Multiset DrainWaiter := M.waiters.entries

theorem Step.due (hst : Step M letter M') :
    M'.due + (letter.settled.toList : Multiset Request) =
      M.due + (letter.deferred.toList : Multiset Request) := by
  cases hst with
  | answer => rfl
  | @defer r =>
      show ((M.deferred ++ [r] : List Request) : Multiset Request) + 0 = M.deferred + {r}
      rw [add_zero, ← Multiset.coe_add, Multiset.coe_singleton]
  | @settle r rest hr =>
      show (rest : Multiset Request) + {r} = M.deferred + 0
      rw [hr, add_zero, add_comm, Multiset.singleton_add, Multiset.cons_coe]
  | join _ _ => rfl
  | reply _ => rfl
  | drop _ => rfl

theorem without_room {x : DrainWaiter} (hx : M.waiters.fetch x.1 = some x.2) :
    (M.without x).room + {x} = M.room := by
  rw [add_comm, room, room, Multiset.singleton_add, Multiset.cons_coe]
  exact Multiset.coe_eq_coe.mpr (FMap.entries_perm_of_some hx).symm

theorem Step.room (hst : Step M letter M') :
    M'.room + (letter.left.toList : Multiset DrainWaiter) =
      M.room + (letter.joined.toList : Multiset DrainWaiter) := by
  cases hst with
  | answer => rfl
  | defer => rfl
  | settle _ => rfl
  | @join x hwaiter hmonitor =>
      show ((M.waiters.put x.1 x.2).entries : Multiset DrainWaiter) + 0 = M.waiters.entries + {x}
      rw [FMap.entries_put, FMap.delete_of_none hwaiter, add_zero, add_comm, Multiset.singleton_add,
        Multiset.cons_coe]
  | reply hx => exact (without_room hx).trans (add_zero _).symm
  | drop hx => exact (without_room hx).trans (add_zero _).symm

/-- What was deferred is settled or still waits. -/
theorem due_trace (h : Trace Step M letters M') :
    M'.due + (letters.filterMap Letter.settled : Multiset Request) =
      M.due + (letters.filterMap Letter.deferred : Multiset Request) :=
  h.balance fun _ _ _ => Step.due

/-- Who joined left or still waits. -/
theorem room_trace (h : Trace Step M letters M') :
    M'.room + (letters.filterMap Letter.left : Multiset DrainWaiter) =
      M.room + (letters.filterMap Letter.joined : Multiset DrainWaiter) :=
  h.balance fun _ _ _ => Step.room

end Mail

/-! ## The mail of a state -/

/-- The mail of an owner's state. -/
def State.mail (s : State) : Mail where
  deferred := s.deferred
  waiters := s.drainWaiters
  monitors := s.drainMonitors

/-- The letters lead from one state's mail to the other's, and the answers among
them were sent. -/
structure Mails (s : State) (letters : List Letter) (s' : State) : Prop where
  /-- The letters lead from one state to the other. -/
  trace : Trace Mail.Step s.mail letters s'.mail
  /-- What was sent answers the requests the letters answer. -/
  answers : s'.sent.filterMap Signal.answers =
    s.sent.filterMap Signal.answers ++ letters.filterMap Letter.answered
  /-- What was sent answers the drain waiters the letters answer. -/
  drained : s'.sent.filterMap Signal.drained =
    s.sent.filterMap Signal.drained ++ (letters.filterMap Letter.replied).map Prod.fst

/-- Nothing happens to the mail and nobody is answered. -/
structure Mute (s s' : State) : Prop where
  /-- The mail stays. -/
  mail : s'.mail = s.mail
  /-- No request is answered. -/
  answers : s'.sent.filterMap Signal.answers = s.sent.filterMap Signal.answers
  /-- No drain waiter is answered. -/
  drained : s'.sent.filterMap Signal.drained = s.sent.filterMap Signal.drained

variable {env : Env} {s s' s'' s₁ : State} {letters letters' : List Letter} {token : Ref}
  {entry : Entry}

theorem Mute.refl (s : State) : Mute s s := ⟨rfl, rfl, rfl⟩

theorem Mute.trans (h : Mute s s') (h' : Mute s' s'') : Mute s s'' :=
  ⟨h'.mail.trans h.mail, h'.answers.trans h.answers, h'.drained.trans h.drained⟩

theorem Mute.mails (h : Mute s s') : Mails s [] s' :=
  ⟨by rw [h.mail]; exact .nil, by simpa using h.answers, by simpa using h.drained⟩

theorem Mails.append (h : Mails s letters s') (h' : Mails s' letters' s'') :
    Mails s (letters ++ letters') s'' := by
  refine ⟨h.trace.append h'.trace, ?_, ?_⟩
  · rw [h'.answers, h.answers, List.filterMap_append, List.append_assoc]
  · rw [h'.drained, h.drained, List.filterMap_append, List.map_append, List.append_assoc]

theorem Mails.after (h : Mails s letters s') (h' : Mute s' s'') : Mails s letters s'' := by
  have hall := h.append h'.mails
  rwa [List.append_nil] at hall

theorem Mute.before (h : Mute s s') (h' : Mails s' letters s'') : Mails s letters s'' :=
  h.mails.append h'

/-- Signals that answer nobody. -/
theorem Mute.sent (extra : List Signal) (hjob : s'.releaseJob = s.releaseJob)
    (hqueue : s'.releaseQueue = s.releaseQueue) (hwaiters : s'.drainWaiters = s.drainWaiters)
    (hmonitors : s'.drainMonitors = s.drainMonitors) (hsent : s'.sent = s.sent ++ extra)
    (hanswers : extra.filterMap Signal.answers = [])
    (hdrained : extra.filterMap Signal.drained = []) :
    Mute s s' := by
  refine ⟨?_, ?_, ?_⟩
  · simp only [State.mail, State.deferred, State.jobs, hjob, hqueue, hwaiters, hmonitors]
  · rw [hsent, List.filterMap_append, hanswers, List.append_nil]
  · rw [hsent, List.filterMap_append, hdrained, List.append_nil]

/-- The mail does not see other fields. -/
theorem Mute.fields (hjob : s'.releaseJob = s.releaseJob)
    (hqueue : s'.releaseQueue = s.releaseQueue) (hwaiters : s'.drainWaiters = s.drainWaiters)
    (hmonitors : s'.drainMonitors = s.drainMonitors) (hsent : s'.sent = s.sent) : Mute s s' :=
  .sent [] hjob hqueue hwaiters hmonitors (by simpa using hsent) rfl rfl

/-! ## Functions that answer nobody -/

theorem notify_mute (message : Notification) (s : State) : Mute s (notify message s) := by
  unfold notify
  split
  · exact .refl s
  · next process _ => exact .sent [.notify process message] rfl rfl rfl rfl rfl rfl rfl

theorem scheduleRetry_mute (env : Env) (token : Ref) (entry : Entry) (s : State) :
    Mute s (scheduleRetry env token entry s) := by
  unfold scheduleRetry
  split
  · exact .refl s
  · split
    · exact .sent [.sendAfter env.timerRef token env.retryGeneration _] rfl rfl rfl rfl rfl
        rfl rfl
    · exact .refl s

theorem cancelRetryTimer_mute (token : Ref) (s : State) : Mute s (cancelRetryTimer token s) := by
  unfold cancelRetryTimer
  split
  · next timer _ => exact .sent [.cancelTimer timer.timerRef] rfl rfl rfl rfl rfl rfl rfl
  · exact .refl s

theorem clearPendingIssue_mute (entry : Entry) (s : State) :
    Mute s (clearPendingIssue entry s).2 := by
  unfold clearPendingIssue
  split
  · exact .refl s
  · next monitorRef _ _ => exact .sent [.demonitor monitorRef] rfl rfl rfl rfl rfl rfl rfl

theorem clearPendingRetain_mute (holder : Ref) (entry : Entry) (s : State) :
    Mute s (clearPendingRetain holder entry s).2 := by
  unfold clearPendingRetain
  split
  · next monitorRef _ _ => exact .sent [.demonitor monitorRef] rfl rfl rfl rfl rfl rfl rfl
  · exact .refl s

theorem dropProtocolMonitor_mute (monitorRef : Ref) (s : State) :
    Mute s (dropProtocolMonitor s monitorRef) :=
  .sent [.demonitor monitorRef] rfl rfl rfl rfl rfl rfl rfl

theorem foldl_dropProtocolMonitor_mute (refs : List Ref) (s : State) :
    Mute s (refs.foldl dropProtocolMonitor s) := by
  induction refs generalizing s with
  | nil => exact .refl s
  | cons monitorRef refs ih => exact (dropProtocolMonitor_mute monitorRef s).trans (ih _)

theorem removeIssueReservation_mute (requestRef : Ref) (s : State) (demonitor : Bool) :
    Mute s (removeIssueReservation requestRef s demonitor) := by
  unfold removeIssueReservation
  split
  · next monitorRef _ _ =>
      cases demonitor with
      | true => exact .sent [.demonitor monitorRef] rfl rfl rfl rfl rfl rfl rfl
      | false => exact .fields rfl rfl rfl rfl rfl
  · exact .refl s

theorem startReleaseExecutor_mute (env : Env) (s : State) : Mute s (startReleaseExecutor env s) :=
  .sent [.spawnExecutor env.executor env.executorMonitor] rfl rfl rfl rfl rfl rfl rfl

theorem putReleaseTombstone_mute {holderId : Ref × Ref} {classification : Classification}
    (h : putReleaseTombstone holderId classification s = some s') : Mute s s' := by
  obtain ⟨_, _, _, rfl⟩ := putReleaseTombstone_frame h
  exact .fields rfl rfl rfl rfl rfl

/-- The job that starts is the oldest. -/
theorem dispatch_mute (hdispatch : dispatchNextRelease env s = some s') : Mute s s' := by
  rcases dispatchNextRelease_cases hdispatch with
    ⟨rfl, -⟩ | ⟨job, rest, entry, hjob, hqueue, -, rfl⟩
  · exact .refl _
  · refine ⟨?_, by simp [Signal.answers], by simp [Signal.drained]⟩
    simp only [State.mail, State.deferred, State.jobs, hjob, hqueue]
    rfl

/-! ## Functions that answer or defer -/

/-- An answer at once. -/
theorem Mails.answer {signal : Signal} {r : Request} (hanswers : signal.answers = some r)
    (hdrained : signal.drained = none) (s : State) : Mails s [.answer r] (s.send signal) := by
  refine ⟨.single .answer, ?_, ?_⟩
  · simp [State.send, hanswers, Letter.answered]
  · simp [State.send, hdrained, Letter.replied]

/-- What a job's waiter makes of a release. -/
def deferrals (waiter : Option Waiter) : List Letter :=
  waiter.toList.map fun waiter => .defer waiter.request

theorem releaseEntry_mails {isRetry : Bool} {waiter : Option Waiter}
    (hrelease : releaseEntry env token entry s isRetry waiter = some s') :
    Mails s (deferrals waiter) s' := by
  unfold releaseEntry at hrelease
  have h₁ := clearPendingIssue_mute entry s
  rcases hc : clearPendingIssue entry s with ⟨entry₁, s₁⟩
  rw [hc] at hrelease h₁
  simp only [clearAllPendingRetains] at hrelease
  have h₂ := foldl_dropProtocolMonitor_mute (pendingRetainMonitors env entry₁) s₁
  generalize (pendingRetainMonitors env entry₁).foldl dropProtocolMonitor s₁ = s₂ at hrelease h₂
  have h₃ := cancelRetryTimer_mute token s₂
  generalize cancelRetryTimer token s₂ = s₃ at hrelease h₃
  refine ((h₁.trans h₂).trans h₃).before (Mails.after ?_ (dispatch_mute hrelease))
  cases waiter with
  | none =>
      refine Mute.mails ⟨?_, rfl, rfl⟩
      simp [State.mail, State.deferred, State.jobs, Job.deferred]
  | some waiter =>
      refine ⟨?_, by simp [deferrals, Letter.answered], by simp [deferrals, Letter.replied]⟩
      refine .single ?_
      have hmail : ∀ (M : Mail) (r : Request) (M' : Mail),
          M' = { M with deferred := M.deferred ++ [r] } → Mail.Step M (.defer r) M' :=
        fun M r M' h => h ▸ .defer
      refine hmail _ _ _ ?_
      simp [State.mail, State.deferred, State.jobs, Job.deferred]

theorem replyReleaseWaiter_sent (waiter : Option Waiter) (result : Except ReleaseError Unit)
    (token : Ref) (s : State) :
    (replyReleaseWaiter waiter result token s).mail = s.mail ∧
      (replyReleaseWaiter waiter result token s).sent.filterMap Signal.answers =
        s.sent.filterMap Signal.answers ++ waiter.toList.map Waiter.request ∧
      (replyReleaseWaiter waiter result token s).sent.filterMap Signal.drained =
        s.sent.filterMap Signal.drained := by
  unfold replyReleaseWaiter
  match waiter with
  | none => simp
  | some (.retry caller) =>
      exact ⟨rfl, by simp [State.send, Signal.answers, Waiter.request],
        by simp [State.send, Signal.drained]⟩
  | some (.issue replyTo requestRef reason) =>
      cases result <;>
        exact ⟨rfl, by simp [replyIssue, State.send, Signal.answers, Waiter.request],
          by simp [replyIssue, State.send, Signal.drained]⟩

/-! ## Drain waiters -/

theorem replyDrainWaiter_mails {x : DrainWaiter} (hx : s.drainWaiters.fetch x.1 = some x.2)
    (result : Except DrainError Unit) : Mails s [.reply x] (replyDrainWaiter x.1 result s) := by
  obtain ⟨requestRef, replyTo, monitorRef⟩ := x
  have hx' : s.drainWaiters.fetch requestRef = some (replyTo, monitorRef) := hx
  have hstate : replyDrainWaiter requestRef result s =
      { s with
        sent := s.sent ++ [.reply replyTo requestRef (.drained result)] ++ [.demonitor monitorRef]
        drainWaiters := s.drainWaiters.delete requestRef
        drainMonitors := s.drainMonitors.delete monitorRef } := by
    simp only [replyDrainWaiter, hx', removeDrainWaiter, State.send]
  rw [hstate]
  refine ⟨.single (.reply hx), ?_, ?_⟩
  · rw [List.append_assoc, List.filterMap_append]
    rfl
  · rw [List.append_assoc, List.filterMap_append]
    rfl

theorem removeDrainWaiter_mails {x : DrainWaiter} (hx : s.drainWaiters.fetch x.1 = some x.2) :
    Mails s [.drop x] (removeDrainWaiter x.1 s) := by
  have hstate : removeDrainWaiter x.1 s =
      { s with
        sent := s.sent ++ [.demonitor x.2.2]
        drainWaiters := s.drainWaiters.delete x.1
        drainMonitors := s.drainMonitors.delete x.2.2 } := by
    simp only [removeDrainWaiter, hx, State.send]
  rw [hstate]
  refine ⟨.single (.drop hx), ?_, ?_⟩
  · rw [List.filterMap_append]
    rfl
  · rw [List.filterMap_append]
    rfl

theorem foldl_replyDrainWaiter_mails (result : Except DrainError Unit) {refs : List Ref}
    (hnodup : refs.Nodup) (hrefs : ∀ ref ∈ refs, ∃ v, s.drainWaiters.fetch ref = some v) :
    ∃ xs : List DrainWaiter, xs.length = refs.length ∧
      Mails s (xs.map .reply)
        (refs.foldl (fun s requestRef => replyDrainWaiter requestRef result s) s) := by
  induction refs generalizing s with
  | nil => exact ⟨[], rfl, (Mute.refl s).mails⟩
  | cons ref refs ih =>
      obtain ⟨hnew, hnodup⟩ := List.nodup_cons.mp hnodup
      obtain ⟨v, hv⟩ := hrefs ref List.mem_cons_self
      have hone := replyDrainWaiter_mails (x := (ref, v)) hv result
      have htable : (replyDrainWaiter ref result s).drainWaiters = s.drainWaiters.delete ref := by
        simp only [replyDrainWaiter, hv, removeDrainWaiter, State.send]
      obtain ⟨xs, hlength, hmore⟩ := ih (s := replyDrainWaiter ref result s) hnodup (by
        intro other hother
        obtain ⟨w, hw⟩ := hrefs other (List.mem_cons_of_mem _ hother)
        have hne : other ≠ ref := fun h => hnew (h ▸ hother)
        exact ⟨w, by rw [htable, FMap.fetch_delete, if_neg hne, hw]⟩)
      exact ⟨(ref, v) :: xs, by simp [hlength], hone.append hmore⟩

/-- All drain waiters are answered and none is left. -/
theorem replyAllDrainWaiters_mails (env : Env) (result : Except DrainError Unit) (s : State) :
    ∃ xs : List DrainWaiter, Mails s (xs.map .reply) (replyAllDrainWaiters env result s) ∧
      (replyAllDrainWaiters env result s).drainWaiters.entries = [] := by
  have hperm := env.order_perm s.drainWaiters.keys
  obtain ⟨xs, hlength, hmails⟩ := foldl_replyDrainWaiter_mails (s := s) result
    (hperm.nodup_iff.mpr s.drainWaiters.keys_nodup)
    (fun ref href => FMap.mem_keys.mp (hperm.mem_iff.mp href))
  refine ⟨xs, hmails, ?_⟩
  -- As many have left as there were.
  have hbalance := congrArg Multiset.card (Mail.room_trace hmails.trace)
  have hleft : (xs.map Letter.reply).filterMap Letter.left = xs := by
    rw [List.filterMap_map]
    exact List.filterMap_some
  have hjoined : (xs.map Letter.reply).filterMap Letter.joined = [] := by
    rw [List.filterMap_map]
    exact List.filterMap_eq_nil_iff.mpr fun _ _ => rfl
  have hsize : s.mail.waiters.entries.length = s.drainWaiters.keys.length := by
    simp [FMap.entries, FMap.keys, State.mail, AList.keys, List.keys]
  rw [hleft, hjoined] at hbalance
  simp only [Mail.room, Multiset.card_add, Multiset.coe_card,
    Multiset.coe_nil, Multiset.card_zero] at hbalance
  rw [hsize, hlength, hperm.length_eq] at hbalance
  refine List.length_eq_zero_iff.mp ?_
  show (replyAllDrainWaiters env result s).mail.waiters.entries.length = 0
  rw [replyAllDrainWaiters]
  omega

end VideoInterop.LeaseOwner
