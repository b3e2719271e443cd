import Mathlib.Data.Multiset.OrderedMonoid
import VideoInterop.LeaseOwner.Replies

/-!
# What one request is told

`Replies` counts over whole histories, in which every drain has a reference of
its own.  Here one reference is followed through one callback, whatever the
others are: a callback tells a request no more than it was asked and owes.
-/

namespace VideoInterop.LeaseOwner

/-- The tags of the messages to a request reference. -/
inductive ReplyKind where
  | issueReserved
  | issued
  | retained
  | drained
deriving DecidableEq

/-- The kind of a reply. -/
def Reply.kind : Reply → ReplyKind
  | .issueReserved _ => .issueReserved
  | .issued _ => .issued
  | .retained _ => .retained
  | .drained _ => .drained

/-- What a signal tells the request `r`. -/
def Signal.told (r : Ref) : Signal → Option ReplyKind
  | .reply _ requestRef answer => if requestRef = r then some answer.kind else none
  | _ => none

/-- What a message asks for under the reference `r`. -/
def Message.asks (r : Ref) : Message → Option ReplyKind
  | .reserveIssue _ _ requestRef => if requestRef = r then some .issueReserved else none
  | .commitIssue _ _ _ requestRef => if requestRef = r then some .issued else none
  | .retain _ _ _ _ requestRef => if requestRef = r then some .retained else none
  | .drain _ requestRef => if requestRef = r then some .drained else none
  | _ => none

/-- What an event asks for in the name of a request. -/
def Event.asks (r : Ref) : Event → Option ReplyKind
  | .info message => message.asks r
  | _ => none

/-- The answer a request is owed, when its reference is `r`. -/
def Request.told (r : Ref) : Request → Option ReplyKind
  | .reserve requestRef => if requestRef = r then some .issueReserved else none
  | .issue requestRef => if requestRef = r then some .issued else none
  | .retain requestRef => if requestRef = r then some .retained else none
  | .retry _ => none

/-- The answer to a drain, when its reference is `r`. -/
def drainTold (r requestRef : Ref) : Option ReplyKind :=
  if requestRef = r then some .drained else none

namespace Letter

/-- What a letter tells a request. -/
def told (r : Ref) : Letter → Option ReplyKind
  | .answer q | .settle q => q.told r
  | .reply x => drainTold r x.1
  | _ => none

/-- What a letter takes from a request. -/
def asks (r : Ref) : Letter → Option ReplyKind
  | .answer q | .defer q => q.told r
  | .join x => drainTold r x.1
  | _ => none

end Letter

/-- What the request `r` is still owed. -/
def Mail.owes (r : Ref) (M : Mail) : Multiset ReplyKind :=
  (M.deferred.filterMap (Request.told r) : Multiset ReplyKind) +
    (((M.waiters.fetch r).map fun _ => ReplyKind.drained).toList : Multiset ReplyKind)

/-- What the owner owes a request. -/
def State.owes (r : Ref) (s : State) : Multiset ReplyKind := s.mail.owes r

/-- What the running callback has told the request `r`. -/
def State.told (r : Ref) (s : State) : Multiset ReplyKind :=
  (s.sent.filterMap (Signal.told r) : List ReplyKind)

/-! ## Letters -/

section Letters

variable {r : Ref} {M M' : Mail} {letter : Letter} {letters : List Letter}

theorem Mail.without_owes {x : DrainWaiter} (hx : M.waiters.fetch x.1 = some x.2) :
    ((drainTold r x.1).toList : Multiset ReplyKind) + (M.without x).owes r = M.owes r := by
  show _ + ((M.deferred.filterMap (Request.told r) : Multiset ReplyKind) +
    ((((M.waiters.delete x.1).fetch r).map fun _ => ReplyKind.drained).toList :
      Multiset ReplyKind)) = _
  rw [FMap.fetch_delete, Mail.owes, drainTold]
  by_cases hr : x.1 = r
  · subst hr
    simp [hx, add_comm]
  · simp [hr, Ne.symm hr]

/-- One letter tells no more than it asks and the mail owes. -/
theorem Mail.Step.owes (hst : Mail.Step M letter M') :
    ((letter.told r).toList : Multiset ReplyKind) + M'.owes r ≤
      ((letter.asks r).toList : Multiset ReplyKind) + M.owes r := by
  cases hst with
  | answer => exact le_rfl
  | @defer q =>
      refine le_of_eq ?_
      simp only [Letter.told, Letter.asks, Mail.owes, List.filterMap_append, ← Multiset.coe_add]
      cases hq : q.told r <;> simp [hq, add_comm]
  | @settle q rest hq =>
      refine le_of_eq ?_
      simp only [Letter.told, Letter.asks, Mail.owes, hq, Multiset.coe_filterMap_cons]
      simp
  | @join x hwaiter hmonitor =>
      refine le_of_eq ?_
      simp only [Letter.told, Letter.asks, Mail.owes, drainTold, FMap.fetch_put]
      by_cases hr : x.1 = r
      · subst hr
        simp [hwaiter, add_comm]
      · simp [hr, Ne.symm hr]
  | reply hx =>
      refine le_of_eq ?_
      simpa [Letter.told, Letter.asks] using Mail.without_owes hx
  | drop hx =>
      rw [← Mail.without_owes (r := r) hx]
      simp [Letter.told, Letter.asks]

theorem Letter.told_split (r : Ref) (letters : List Letter) :
    (letters.filterMap (Letter.told r) : Multiset ReplyKind) =
      ((letters.filterMap Letter.answered).filterMap (Request.told r) : Multiset ReplyKind) +
        (((letters.filterMap Letter.replied).map Prod.fst).filterMap (drainTold r) :
          Multiset ReplyKind) := by
  rw [List.filterMap_map]
  refine Multiset.coe_filterMap_split (fun letter => ?_) letters
  cases letter <;> simp [Letter.told, Letter.answered, Letter.replied]

theorem Letter.asks_split (r : Ref) (letters : List Letter) :
    (letters.filterMap (Letter.asks r) : Multiset ReplyKind) =
      ((letters.filterMap Letter.taken).filterMap (Request.told r) : Multiset ReplyKind) +
        (((letters.filterMap Letter.joined).map Prod.fst).filterMap (drainTold r) :
          Multiset ReplyKind) := by
  rw [List.filterMap_map]
  refine Multiset.coe_filterMap_split (fun letter => ?_) letters
  cases letter <;> simp [Letter.asks, Letter.taken, Letter.joined]

theorem Signal.told_split (r : Ref) (sent : List Signal) :
    (sent.filterMap (Signal.told r) : Multiset ReplyKind) =
      ((sent.filterMap Signal.answers).filterMap (Request.told r) : Multiset ReplyKind) +
        ((sent.filterMap Signal.drained).filterMap (drainTold r) : Multiset ReplyKind) := by
  refine Multiset.coe_filterMap_split (fun signal => ?_) sent
  cases signal with
  | reply replyTo requestRef answer =>
      cases answer <;>
        simp [Signal.told, Signal.answers, Signal.drained, Request.told, drainTold, Reply.kind]
  | _ => simp [Signal.told, Signal.answers, Signal.drained, Request.told]

end Letters

/-! ## Callbacks -/

variable {r : Ref} {env : Env} {s s' s₁ : State} {event : Event} {out : Outcome}
  {letters : List Letter}

theorem toList_filterMap {α β : Type} (f : α → Option β) (x : Option α) :
    x.toList.filterMap f = (x.bind f).toList := by
  cases x with
  | none => rfl
  | some x => cases hf : f x <;> simp [hf]

/-- Letters tell the request what the signals sent with them tell it. -/
theorem told_eq (calls : List Signal)
    (hcalls : (calls.filterMap Signal.answers).filterMap (Request.told r) = [])
    (hanswers : (s'.sent ++ calls).filterMap Signal.answers =
      s.sent.filterMap Signal.answers ++ letters.filterMap Letter.answered)
    (hdrained : s'.sent.filterMap Signal.drained =
      s.sent.filterMap Signal.drained ++ (letters.filterMap Letter.replied).map Prod.fst) :
    s'.told r = s.told r + (letters.filterMap (Letter.told r) : Multiset ReplyKind) := by
  have htold := congrArg (List.filterMap (Request.told r)) hanswers
  rw [List.filterMap_append, List.filterMap_append, hcalls, List.append_nil,
    List.filterMap_append] at htold
  simp only [State.told, Signal.told_split, Letter.told_split]
  rw [htold, hdrained, List.filterMap_append, ← Multiset.coe_add, ← Multiset.coe_add,
    add_add_add_comm]

/-- Who tells no more than the letters ask and the mail owes. -/
theorem told_le (htrace : Trace Mail.Step s.mail letters s'.mail)
    (htold : s'.told r = s.told r + (letters.filterMap (Letter.told r) : Multiset ReplyKind)) :
    s'.told r + s'.owes r ≤
      s.told r + (letters.filterMap (Letter.asks r) : Multiset ReplyKind) + s.owes r := by
  have hstep (M : Mail) (letter : Letter) (M' : Mail) (hst : Mail.Step M letter M') :
      ((letter.told r).toList : Multiset ReplyKind) + M'.owes r ≤
        ((letter.asks r).toList : Multiset ReplyKind) + M.owes r := hst.owes
  have hbudget := Trace.budget hstep htrace
  rw [htold, add_assoc, add_assoc]
  exact add_le_add_right hbudget _

/-- The callback tells the request no more than it is asked and owed. -/
def Tells (r : Ref) (s : State) (event : Event) (out : Outcome) : Prop :=
  ∃ s', out.state? = some s' ∧
    s'.told r + s'.owes r ≤
      s.told r + ((event.asks r).toList : Multiset ReplyKind) + s.owes r

/-- The end of a callback answers only who waits. -/
theorem Ends.tells_from (h : Ends s₁ out) {total : Multiset ReplyKind}
    (htotal : s₁.told r + s₁.owes r ≤ total) :
    ∃ s', out.state? = some s' ∧ s'.told r + s'.owes r ≤ total := by
  obtain ⟨s', xs, hstate, hmails, -⟩ := h
  have hasks : (xs.map Letter.reply).filterMap (Letter.asks r) = [] := by
    rw [List.filterMap_map]
    exact List.filterMap_eq_nil_iff.mpr fun _ _ => rfl
  have htold : s'.told r = s₁.told r + _ :=
    told_eq [] rfl (by rw [List.append_nil]; exact hmails.answers) hmails.drained
  have hle := told_le hmails.trace htold
  rw [hasks, Multiset.coe_nil, add_zero] at hle
  exact ⟨s', hstate, hle.trans htotal⟩

theorem Ends.tells (h : Ends s out) : Tells r s event out := by
  refine h.tells_from ?_
  rw [add_right_comm]
  exact le_add_of_nonneg_right (Multiset.zero_le _)

theorem askedBy_asks (env : Env) (s : State) (event : Event) :
    (((askedBy env s event).bind (Request.told r)).toList : Multiset ReplyKind) +
        (((joinedBy env event).bind fun x => drainTold r x.1).toList : Multiset ReplyKind) ≤
      ((event.asks r).toList : Multiset ReplyKind) := by
  cases event with
  | info message =>
      cases message with
      | commitIssue reservation backendToken replyTo requestRef =>
          simp only [askedBy, joinedBy]
          cases acceptedBy env s
            (.info (.commitIssue reservation backendToken replyTo requestRef)) <;>
            simp [Event.asks, Message.asks, Request.told]
      | _ => simp [askedBy, joinedBy, Event.asks, Message.asks, Request.told, drainTold]
  | _ => simp [askedBy, joinedBy, Event.asks, Request.told]

theorem Replies.tells (h : Replies env s event out) : Tells r s event out := by
  obtain ⟨s', letters, hstate, hc, -⟩ := h
  have hcalls :
    ((callReplies event out).filterMap Signal.answers).filterMap (Request.told r) = [] := by
    unfold callReplies
    split <;> rfl
  have hasks :
    (letters.filterMap (Letter.asks r) : Multiset ReplyKind) ≤ (event.asks r).toList := by
    rw [Letter.asks_split, hc.taken, hc.joined, List.filterMap_map, toList_filterMap,
      toList_filterMap]
    exact askedBy_asks env s event
  have hle := told_le hc.trace (told_eq _ hcalls hc.answers hc.drained)
  exact ⟨s', hstate, hle.trans (add_le_add_left (add_le_add_right hasks _) _)⟩

/-- A drain under a reference that is in use takes its place. -/
theorem waiting_owes (env : Env) (replyTo : Pid) (requestRef : Ref) (s : State) :
    (s.waiting env replyTo requestRef).told r + (s.waiting env replyTo requestRef).owes r ≤
      s.told r + ((drainTold r requestRef).toList : Multiset ReplyKind) + s.owes r := by
  have htold : (s.waiting env replyTo requestRef).told r = s.told r := by
    show ((s.sent ++ [Signal.monitor replyTo env.monitorRef]).filterMap (Signal.told r) :
      Multiset ReplyKind) = _
    rw [List.filterMap_append]
    exact congrArg _ (List.append_nil _)
  rw [htold, add_assoc]
  refine add_le_add_right ?_ _
  show (s.deferred.filterMap (Request.told r) : Multiset ReplyKind) +
    ((((s.drainWaiters.put requestRef (replyTo, env.monitorRef)).fetch r).map
      fun _ => ReplyKind.drained).toList : Multiset ReplyKind) ≤ _ +
    ((s.deferred.filterMap (Request.told r) : Multiset ReplyKind) +
      (((s.drainWaiters.fetch r).map fun _ => ReplyKind.drained).toList : Multiset ReplyKind))
  rw [FMap.fetch_put, drainTold, add_left_comm]
  refine add_le_add_right ?_ _
  by_cases hr : requestRef = r
  · simp [hr]
  · simp [hr, Ne.symm hr]

theorem handleDown_tells (h : Coupled s) (monitorRef : Option Ref) (reason : Term) :
    Tells r s (.info (.down monitorRef reason)) (handleDown env monitorRef reason s) := by
  unfold handleDown
  split
  · exact (beginProducerDrain_ends env s).tells
  · next hproducer =>
      split
      · exact (Ends.live (.refl s) rfl).tells
      · next monitorRef =>
          split
          · next hexecutor =>
              subst hexecutor
              exact (handleReleaseExecutorDown_replies h reason hproducer).tells
          · split
            · exact (handleProtocolDown_ends env monitorRef h).tells
            · split
              · next requestRef _ =>
                  -- Whoever has the reference now is dropped.
                  cases hx : s.drainWaiters.fetch requestRef with
                  | none =>
                      refine (Ends.live ?_ rfl).tells
                      rw [removeDrainWaiter, hx]
                      exact .refl s
                  | some x =>
                      have hdrop := removeDrainWaiter_mails (x := (requestRef, x)) hx
                      have htold := told_eq (r := r) [] rfl
                        (by rw [List.append_nil]; exact hdrop.answers) hdrop.drained
                      exact ⟨_, rfl, told_le hdrop.trace htold⟩
              · exact (Ends.live (.refl s) rfl).tells

/-- **No callback tells a request more than it is asked and owed**, unless it
raises. -/
theorem handle_tells (h : Coupled s) (hlisted : Listed s.releaseTombstones s.releaseTombstoneOrder)
    (hfresh : s.leases.fetch env.token = none) (hfaulty : ¬Faulty s event) :
    Tells r s event (handle env event s) := by
  by_cases hdrain : ∃ replyTo requestRef, event = .info (.drain replyTo requestRef)
  · obtain ⟨replyTo, requestRef, rfl⟩ := hdrain
    exact (handleDrain_ends h replyTo requestRef).tells_from (waiting_owes env replyTo requestRef s)
  by_cases hdown : ∃ monitorRef reason, event = .info (.down monitorRef reason)
  · obtain ⟨monitorRef, reason, rfl⟩ := hdown
    exact handleDown_tells h monitorRef reason
  refine (handle_replies h hlisted ?_ hfresh ?_ hfaulty).tells
  · intro monitorRef reason hevent
    exact absurd ⟨monitorRef, reason, hevent⟩ hdown
  · intro x hx
    unfold joinedBy at hx
    split at hx
    · next replyTo requestRef => exact absurd ⟨replyTo, requestRef, rfl⟩ hdrain
    · cases hx

variable {o : Owner} {i : Input}

/-- The callback of an owner that a run reached. -/
theorem Owner.Reachable.tells (h : o.Reachable) (hfresh : o.supply ≤ i.env.supply)
    (hstate : (outcome o.state i).state? = some s) :
    s.told r + s.owes r ≤ ((i.event.asks r).toList : Multiset ReplyKind) + o.state.owes r := by
  obtain ⟨visits, hrun⟩ := h
  have hcoupled : Coupled { o.state with sent := [] } := hrun.sound.coupled.congr rfl rfl rfl
  have hfaulty : ¬Faulty { o.state with sent := [] } i.event := fun hf => by
    rw [outcome, faulty_raises i.env hcoupled hf] at hstate
    cases hstate
  obtain ⟨s', hstate', htells⟩ :=
    handle_tells (r := r) hcoupled hrun.tally_sound.listed (hrun.token_new hfresh) hfaulty
  have hsame : some s' = some s := hstate'.symm.trans hstate
  cases hsame
  have hzero : State.told r { o.state with sent := [] } = 0 := rfl
  rw [hzero, zero_add] at htells
  exact htells

/-- A fresh owner owes nothing. -/
theorem Owner.Init.owes (h : o.Init) : o.state.owes r = 0 := by
  obtain ⟨env, self, opts, hinit, -⟩ := h
  rw [State.owes, init_mail hinit]
  rfl

end VideoInterop.LeaseOwner
