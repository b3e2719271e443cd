import Mathlib.Data.Multiset.OrderedMonoid
import VideoInterop.LeaseOwner.Calls

/-!
# Late replies

A caller that gives up takes its alias away, so that no reply comes later, and
does not look at its mailbox again.  A reply that arrives after the `after` has
expired and before the alias is gone therefore stays in the mailbox.  That is the
only way: whatever else happens, a caller that has returned has no message of its
request, and none is delivered to it.

The invariant counts the replies of the request that can still come: those on
their way, those the owner owes and those the caller has asked for.
-/

namespace VideoInterop.LeaseOwner

/-! ## Clauses -/

/-- The reply a message carries to the caller's request. -/
def Arrival.kind (c : Client) (m : Arrival) : Option ReplyKind :=
  match m.seen c with
  | .reply answer => some answer.kind
  | _ => none

/-- The replies among some messages. -/
def replyKinds (c : Client) (messages : List Arrival) : Multiset ReplyKind :=
  (messages.filterMap (Arrival.kind c) : List ReplyKind)

/-- The reply a receive waits for. -/
def Await.kind : Await → ReplyKind
  | .issueReservation _ => .issueReserved
  | .committedIssue => .issued
  | .drain => .drained
  | .retain _ _ _ => .retained

/-- What an action asks for in the name of a request. -/
def Action.asks (r : Ref) : Action → Option ReplyKind
  | .send message => message.asks r
  | _ => none

/-- What some actions ask for. -/
def askedFor (c : Client) (todo : List Action) : Multiset ReplyKind :=
  (todo.filterMap (Action.asks c.requestRef) : List ReplyKind)

/-- Actions of a caller that is about to return. -/
structure Parting (c : Client) (todo : List Action) : Prop where
  /-- It asks for nothing more. -/
  asks : ∀ action ∈ todo, action.asks c.requestRef = none
  /-- It opens no alias. -/
  shut : .openAlias ∉ todo

variable {c : Client} {a : Await} {answer : Reply} {clause : Clause}

/-- The clauses accept the reply they wait for, and no other. -/
theorem Await.clauses_none : a.clauses c (.reply answer) = none ↔ answer.kind ≠ a.kind := by
  cases a <;> rcases answer with (_ | _) | (_ | _) | (_ | _) | _ <;>
    simp [Await.clauses, awaitIssueReservation, awaitCommittedIssue, awaitDrain, awaitRetain,
      Reply.kind, Await.kind]
  split <;> simp

theorem Await.clauses_kind (h : a.clauses c (.reply answer) = some clause) :
    answer.kind = a.kind := by
  by_contra hne
  rw [Await.clauses_none.mpr hne] at h
  cases h

/-- A reply is answered by the next request, or it ends the call. -/
theorem Await.clauses_reply (h : a.clauses c (.reply answer) = some clause) :
    (∃ message b, clause = ⟨[.send message], .await b⟩ ∧
        message.asks c.requestRef = some b.kind) ∨
      ∃ todo result, clause = ⟨todo, .returns result⟩ ∧ Parting c todo ∧ .unalias ∈ todo ∧
        result.timedOut = false := by
  have hcleanup : Parting c cleanupRequest :=
    ⟨by simp [cleanupRequest, Action.asks], by simp [cleanupRequest]⟩
  have hfirst (message : Message) (hasks : message.asks c.requestRef = none) :
      Parting c (.send message :: cleanupRequest) :=
    ⟨by simp [Action.asks, hasks, cleanupRequest], by simp [cleanupRequest]⟩
  cases a with
  | issueReservation backendToken =>
      rcases answer with (reason | reservation) | _ | _ | _ <;> cases h
      · exact .inr ⟨_, _, rfl, hcleanup, by simp [cleanupRequest], rfl⟩
      · exact .inl ⟨_, .committedIssue, rfl, by simp [Message.asks, Await.kind]⟩
  | committedIssue =>
      rcases answer with _ | (reason | lease) | _ | _ <;> cases h
      · exact .inr ⟨_, _, rfl, hcleanup, by simp [cleanupRequest], rfl⟩
      · exact .inr ⟨_, _, rfl, hfirst _ rfl, by simp [cleanupRequest], rfl⟩
  | drain =>
      rcases answer with _ | _ | _ | result <;> cases h
      exact .inr ⟨_, _, rfl, hcleanup, by simp [cleanupRequest], rfl⟩
  | retain lease childHolder valid =>
      rcases answer with _ | _ | (reason | childGuard) | _ <;>
        simp only [Await.clauses, awaitRetain] at h
      any_goals cases h
      · exact .inr ⟨_, _, rfl, hcleanup, by simp [cleanupRequest], rfl⟩
      · split at h <;> cases h
        · exact .inr ⟨_, _, rfl, hfirst _ rfl, by simp [cleanupRequest], rfl⟩
        · exact .inr ⟨_, _, rfl, ⟨by simp [Action.asks, Message.asks], by simp⟩, by simp, rfl⟩

theorem Await.clauses_down {reason : DownReason} (h : a.clauses c (.down reason) = some clause) :
    ∃ result, clause = ⟨[.unalias], .returns result⟩ ∧ result.timedOut = false := by
  cases a <;> cases h <;> exact ⟨_, rfl, rfl⟩

theorem Await.clauses_other : a.clauses c .other = none := by
  cases a <;> rfl

theorem Await.after_parting : Parting c (a.after c).actions :=
  ⟨by cases a <;> simp [Await.after, Await.cancel, Action.asks, Message.asks],
    by simp [Await.after]⟩

theorem Await.cancel_timedOut : (a.cancel c).2.timedOut = true := by
  cases a <;> rfl

theorem Client.request_asks : c.request.asks c.requestRef = some c.awaits.kind := by
  unfold Client.request Client.awaits
  split <;> simp [Message.asks, Await.kind]

/-- Will the caller take nothing more out of its mailbox? -/
def Phase.parting : Phase → Bool
  | .running _ (.returns _) | .returned _ => true
  | _ => false

/-! ## Messages -/

variable {m : Arrival} {messages messages' : List Arrival}

theorem replyKinds_append (c : Client) (messages messages' : List Arrival) :
    replyKinds c (messages ++ messages') = replyKinds c messages + replyKinds c messages' := by
  rw [replyKinds, List.filterMap_append, ← Multiset.coe_add]
  rfl

theorem replyKinds_mono (h : messages'.Sublist messages) :
    replyKinds c messages' ≤ replyKinds c messages :=
  Multiset.coe_le.mpr (h.filterMap _).subperm

theorem replyKinds_zero : replyKinds c messages = 0 ↔ ∀ m ∈ messages, m.kind c = none := by
  rw [replyKinds, Multiset.coe_eq_zero, List.filterMap_eq_nil_iff]

/-- A message is a reply, the end of the owner or neither. -/
theorem Client.ownerDownReason_some {reason : DownReason} :
    c.ownerDownReason m = some reason ↔ m.seen c = .down reason := by
  unfold Client.ownerDownReason
  split
  · next hseen => simp [hseen]
  · next hseen =>
      simp only [reduceCtorEq, false_iff]
      exact fun h => hseen _ h

theorem Arrival.kind_some {kind : ReplyKind} :
    m.kind c = some kind ↔ ∃ answer, m.seen c = .reply answer ∧ answer.kind = kind := by
  unfold Arrival.kind
  split
  · next hseen => simp [hseen]
  · next hseen =>
      simp only [reduceCtorEq, false_iff]
      exact fun ⟨answer, h, _⟩ => hseen answer h

/-- What arrives of a signal is a reply to the request. -/
theorem Signal.arrival_kind (c : Client) (signal : Signal) :
    (signal.arrival c).bind (Arrival.kind c) = signal.told c.requestRef := by
  cases signal with
  | reply replyTo requestRef answer =>
      by_cases hr : requestRef = c.requestRef <;>
        simp [Signal.arrival, Signal.told, Arrival.kind, Arrival.seen, hr]
  | _ => rfl

theorem Signal.arrival_up {signal : Signal} (h : signal.arrival c = some m) :
    c.ownerDownReason m = none := by
  cases signal with
  | reply replyTo requestRef answer =>
      simp only [Signal.arrival] at h
      split at h
      · next hr =>
          cases h
          simp [Client.ownerDownReason, Arrival.seen, hr]
      · cases h
  | _ => cases h

/-- What has arrived of some signals is what they tell. -/
theorem replyKinds_sent (c : Client) (sent : List Signal) :
    replyKinds c (sent.filterMap (Signal.arrival c)) =
      (sent.filterMap (Signal.told c.requestRef) : List ReplyKind) := by
  rw [replyKinds, List.filterMap_filterMap]
  exact congrArg _ (congrArg (fun f => sent.filterMap f) (funext (Signal.arrival_kind c)))

/-! ## The invariant -/

namespace Exchange

variable {w w' : Exchange}

/-- What is in the mailbox and on the way to it. -/
def news (w : Exchange) : List Arrival := w.mailbox ++ w.transit

/-- The replies an owner owes and the caller's messages to it ask for. -/
def coming (c : Client) (inbox : List Message) : Option Owner → Multiset ReplyKind
  | some o =>
      (inbox.filterMap (Message.asks c.requestRef) : List ReplyKind) + o.state.owes c.requestRef
  | none => 0

/-- The replies to the request that are there or can still come. -/
def pending (c : Client) (w : Exchange) : Multiset ReplyKind :=
  replyKinds c w.news + coming c w.inbox w.owner

/-- What the channels promise in every state. -/
structure Wired (c : Client) (w : Exchange) : Prop where
  /-- The owner is in a state it can reach. -/
  owner : ∀ o, w.owner = some o → o.Reachable
  /-- An owner whose end is announced is gone. -/
  down : ∀ m ∈ w.news, (c.ownerDownReason m).isSome = true → w.owner = none
  /-- No reply stands behind the announcement. -/
  order : w.news.Pairwise fun m n => (c.ownerDownReason m).isSome = true → n.kind c = none

/-- The replies that can still come, by where the caller is. -/
def Expects (c : Client) (w : Exchange) : Prop :=
  match w.phase with
  | .idle | .monitored | .refused => w.aliased = false ∧ w.pending c = 0
  | .running todo (.await a) => askedFor c todo + w.pending c ≤ {a.kind}
  | .waiting a => w.pending c ≤ {a.kind}
  | .running todo (.returns result) =>
      Parting c todo ∧ (w.aliased = true → .unalias ∈ todo) ∧
        (result.timedOut = false → w.pending c = 0)
  | .returned _ => w.aliased = false

/-! ### Channels -/

theorem Wired.shrink (h : Wired c w) (howner : w'.owner = w.owner)
    (hnews : w'.news.Sublist w.news) : Wired c w' where
  owner := howner ▸ h.owner
  down m hm hdown := howner ▸ h.down m (hnews.subset hm) hdown
  order := h.order.sublist hnews

theorem pending_shrink (howner : w'.owner = w.owner) (hinbox : w'.inbox = w.inbox)
    (hnews : w'.news.Sublist w.news) : w'.pending c ≤ w.pending c := by
  rw [pending, pending, howner, hinbox]
  exact add_le_add_left (replyKinds_mono hnews) _

/-- What comes behind a living owner's messages, and then perhaps its end. -/
theorem order_append {replies : List Arrival} (hnews : ∀ m ∈ messages, c.ownerDownReason m = none)
    (hreplies : ∀ m ∈ replies, c.ownerDownReason m = none) :
    (messages ++ replies).Pairwise
      fun m n => (c.ownerDownReason m).isSome = true → n.kind c = none := by
  refine List.Pairwise.imp_of_mem (R := fun _ _ => True) ?_ (List.pairwise_of_forall (by simp))
  intro m n hm _ _ hdown
  rcases List.mem_append.mp hm with hm | hm
  · rw [hnews m hm] at hdown
    cases hdown
  · rw [hreplies m hm] at hdown
    cases hdown

theorem order_end (h : messages.Pairwise
      fun m n => (c.ownerDownReason m).isSome = true → n.kind c = none)
    (ending : List Arrival) (hending : ending = [] ∨ ∃ m, ending = [m] ∧ m.kind c = none) :
    (messages ++ ending).Pairwise
      fun m n => (c.ownerDownReason m).isSome = true → n.kind c = none := by
  rcases hending with rfl | ⟨m, rfl, hm⟩
  · rwa [List.append_nil]
  · refine List.pairwise_append.mpr ⟨h, List.pairwise_singleton .., ?_⟩
    intro n _ m' hm' _
    rw [List.mem_singleton.mp hm']
    exact hm

theorem obituary_ending (c : Client) (w : Exchange) (reason : DownReason) (left : Option Owner) :
    w.obituary c reason left = [] ∨ ∃ m, w.obituary c reason left = [m] ∧ m.kind c = none ∧
      left = none := by
  unfold obituary
  split
  · exact .inl rfl
  · split
    · exact .inr ⟨_, rfl, by simp [Arrival.kind, Arrival.seen], rfl⟩
    · exact .inl rfl

theorem obituary_kinds (c : Client) (w : Exchange) (reason : DownReason) (left : Option Owner) :
    replyKinds c (w.obituary c reason left) = 0 := by
  rcases obituary_ending c w reason left with hnil | ⟨m, hm, hkind, _⟩
  · rw [hnil]
    rfl
  · rw [hm, replyKinds_zero]
    simpa using hkind

/-- What is appended behind the news: messages of an owner, and perhaps its end. -/
theorem Wired.extend (h : Wired c w) (replies ending : List Arrival)
    (hnews : w'.news = w.news ++ replies ++ ending)
    (howner : ∀ o, w'.owner = some o → o.Reachable) (hgone : w.owner = none → w'.owner = none)
    (hup : ∀ m ∈ replies, c.ownerDownReason m = none)
    (horder : (w.news ++ replies).Pairwise
      fun m n => (c.ownerDownReason m).isSome = true → n.kind c = none)
    (hending : ending = [] ∨ ∃ m, ending = [m] ∧ m.kind c = none ∧ w'.owner = none) :
    Wired c w' where
  owner := howner
  down := by
    intro m hm hdown
    rw [hnews, List.mem_append, List.mem_append] at hm
    rcases hm with (hm | hm) | hm
    · exact hgone (h.down m hm hdown)
    · rw [hup m hm] at hdown
      cases hdown
    · rcases hending with hnil | ⟨_, _, _, hnone⟩
      · rw [hnil] at hm
        cases hm
      · exact hnone
  order := by
    rw [hnews]
    refine order_end horder _ ?_
    rcases hending with hnil | ⟨m, hm, hkind, _⟩
    · exact .inl hnil
    · exact .inr ⟨m, hm, hkind⟩

/-! ### One step -/

variable {o : Owner} {i : Input} {left : Option Owner} {sent : List Signal}
  {rest : List Message} {act : Act}

theorem move_reachable (ho : o.Reachable)
    (h : o.Move i left sent) : ∀ o', left = some o' → o'.Reachable := by
  intro o' heq
  subst heq
  cases h with
  | lives hst => exact ho.step hst

/-- **An owner tells the request no more than it was asked and owes**, also when
it dies of it. -/
theorem move_coming (ho : o.Reachable) (hmove : o.Move i left sent)
    (hsource : w.Source c i.event rest) :
    (sent.filterMap (Signal.told c.requestRef) : Multiset ReplyKind) + coming c rest left ≤
      coming c w.inbox (some o) := by
  have htells : (sent.filterMap (Signal.told c.requestRef) : Multiset ReplyKind) +
      left.elim 0 (fun o' => o'.state.owes c.requestRef) ≤
        ((i.event.asks c.requestRef).toList : Multiset ReplyKind) + o.state.owes c.requestRef := by
    cases hmove with
    | lives hst => exact ho.tells hst.fresh (Outcome.state_of_live hst.live)
    | @dies s n hfresh hstate =>
        have hprefix : ((s.sent.take n).filterMap (Signal.told c.requestRef) : Multiset ReplyKind) ≤
            s.told c.requestRef :=
          Multiset.coe_le.mpr ((List.take_sublist n s.sent).filterMap _).subperm
        rw [Option.elim_none, add_zero]
        exact hprefix.trans ((le_add_of_nonneg_right (Multiset.zero_le _)).trans
          (ho.tells hfresh hstate))
    | raises _ => simp
  have hleft : coming c rest left ≤
      (rest.filterMap (Message.asks c.requestRef) : Multiset ReplyKind) +
        left.elim 0 (fun o' => o'.state.owes c.requestRef) := by
    cases left with
    | none => exact Multiset.zero_le _
    | some o' => exact le_rfl
  have hinbox : (rest.filterMap (Message.asks c.requestRef) : Multiset ReplyKind) +
      ((i.event.asks c.requestRef).toList : Multiset ReplyKind) =
        (w.inbox.filterMap (Message.asks c.requestRef) : Multiset ReplyKind) := by
    cases hsource with
    | caller hinbox hevent =>
        rw [hinbox, hevent, Multiset.coe_filterMap_cons, add_comm]
        rfl
    | others hasks => rw [hasks, Option.toList_none, Multiset.coe_nil, add_zero]
  calc (sent.filterMap (Signal.told c.requestRef) : Multiset ReplyKind) + coming c rest left
      ≤ (sent.filterMap (Signal.told c.requestRef) : Multiset ReplyKind) +
          ((rest.filterMap (Message.asks c.requestRef) : Multiset ReplyKind) +
            left.elim 0 (fun o' => o'.state.owes c.requestRef)) := add_le_add_right hleft _
    _ = (rest.filterMap (Message.asks c.requestRef) : Multiset ReplyKind) +
          ((sent.filterMap (Signal.told c.requestRef) : Multiset ReplyKind) +
            left.elim 0 (fun o' => o'.state.owes c.requestRef)) := add_left_comm ..
    _ ≤ (rest.filterMap (Message.asks c.requestRef) : Multiset ReplyKind) +
          (((i.event.asks c.requestRef).toList : Multiset ReplyKind) +
            o.state.owes c.requestRef) := add_le_add_right htells _
    _ = coming c w.inbox (some o) := by rw [← add_assoc, hinbox]; rfl

/-- No message is between the owner and the caller but replies, while the owner
lives. -/
theorem Wired.up (h : Wired c w) (howner : w.owner = some o) :
    ∀ m ∈ w.news, c.ownerDownReason m = none := by
  intro m hm
  cases hdown : c.ownerDownReason m with
  | none => rfl
  | some reason =>
      have hgone := h.down m hm (by rw [hdown]; rfl)
      rw [howner] at hgone
      cases hgone

theorem flushed_sublist (c : Client) (box : List Arrival) : (flushed c box).Sublist box :=
  List.filter_sublist

theorem Step.wired (h : Wired c w) (hst : Step c w act w') : Wired c w' := by
  cases hst with
  | remote _ _ => exact h.shrink rfl (.refl _)
  | monitor _ _ =>
      refine h.extend [] (if w.owner.isNone then [.down c.monitorRef .noproc] else [])
        (by simp [news]) h.owner id (by simp) (by rw [List.append_nil]; exact h.order) ?_
      by_cases howner : w.owner = none
      · exact .inr ⟨_, by rw [howner]; rfl, by simp [Arrival.kind, Arrival.seen], howner⟩
      · refine .inl (if_neg ?_)
        rwa [Option.isNone_iff_eq_none]
  | alive _ _ => exact h.shrink rfl (.refl _)
  | notAlive _ _ => exact h.shrink rfl (.refl _)
  | downReason _ hreceive =>
      exact h.shrink rfl ((Mailbox.receive_sublist hreceive).append_right _)
  | noReason _ _ => exact h.shrink rfl (.refl _)
  | @act action todo next _ =>
      cases action with
      | demonitor => exact h.shrink rfl ((flushed_sublist c _).append_right _)
      | _ => exact h.shrink rfl (.refl _)
  | await _ => exact h.shrink rfl (.refl _)
  | returns _ => exact h.shrink rfl (.refl _)
  | receive _ hreceive => exact h.shrink rfl ((Mailbox.receive_sublist hreceive).append_right _)
  | expire _ _ => exact h.shrink rfl (.refl _)
  | deliver htransit _ =>
      refine h.shrink rfl ?_
      rw [news, news, htransit, List.append_assoc]
      exact .refl _
  | discard htransit _ =>
      refine h.shrink rfl ?_
      rw [news, news, htransit]
      exact (List.sublist_cons_self _ _).append_left _
  | @disturb message =>
      have hkind : (Arrival.other message).kind c = none := rfl
      have horder := List.pairwise_append.mp h.order
      refine ⟨h.owner, fun m hm hdown => ?_, ?_⟩
      · simp only [news, List.append_assoc, List.mem_append, List.mem_singleton] at hm
        rcases hm with hm | rfl | hm
        · exact h.down m (List.mem_append.mpr (.inl hm)) hdown
        · cases hdown
        · exact h.down m (List.mem_append.mpr (.inr hm)) hdown
      · have hbox := order_end horder.1 [.other message] (.inr ⟨_, rfl, hkind⟩)
        refine List.pairwise_append.mpr ⟨hbox, horder.2.1, fun m hm n hn hdown => ?_⟩
        rcases List.mem_append.mp hm with hm | hm
        · exact horder.2.2 m hm n hn hdown
        · obtain rfl := List.mem_singleton.mp hm
          cases hdown
  | @owner o i rest left sent reason howner hsource hmove =>
      have hreplies : ∀ m ∈ sent.filterMap (Signal.arrival c), c.ownerDownReason m = none := by
        intro m hm
        obtain ⟨signal, -, hsignal⟩ := List.mem_filterMap.mp hm
        exact Signal.arrival_up hsignal
      refine h.extend _ (w.obituary c (.exit reason) left) (by simp [news])
        (move_reachable (h.owner o howner) hmove)
        (fun hnone => by rw [howner] at hnone; cases hnone) hreplies
        (order_append (h.up howner) hreplies) (obituary_ending c w _ left)
  | @kill o reason howner =>
      exact h.extend [] (w.obituary c (.exit reason) none) (by simp [news])
        (by simp) (fun _ => rfl) (by simp)
        (by rw [List.append_nil]; exact h.order) (obituary_ending c w _ none)

/-! ### What can still come -/

theorem Expects.mono (h : Expects c w) (hphase : w'.phase = w.phase)
    (haliased : w'.aliased = w.aliased) (hpending : w'.pending c ≤ w.pending c) : Expects c w' := by
  have hzero (hw : w.pending c = 0) : w'.pending c = 0 :=
    Multiset.le_zero.mp (hw ▸ hpending)
  unfold Expects at h ⊢
  rw [hphase, haliased]
  split at h
  · exact ⟨h.1, hzero h.2⟩
  · exact ⟨h.1, hzero h.2⟩
  · exact ⟨h.1, hzero h.2⟩
  · exact (add_le_add_right hpending _).trans h
  · exact hpending.trans h
  · exact ⟨h.1, h.2.1, fun hresult => hzero (h.2.2 hresult)⟩
  · exact h

theorem pending_perform (c : Client) (w : Exchange) (action : Action) :
    (w.perform c action).pending c ≤
      ((action.asks c.requestRef).toList : Multiset ReplyKind) + w.pending c := by
  cases action with
  | send message =>
      cases howner : w.owner with
      | none => simp [perform, pending, news, howner, coming]
      | some o =>
          refine le_of_eq ?_
          have hlast : ([message].filterMap (Message.asks c.requestRef) : Multiset ReplyKind) =
              ((message.asks c.requestRef).toList : Multiset ReplyKind) := by
            rw [Multiset.coe_filterMap_cons]
            exact add_zero _
          simp only [perform, pending, news, howner, coming, List.filterMap_append,
            ← Multiset.coe_add, Action.asks, hlast]
          rw [add_right_comm, ← add_assoc, add_comm]
  | demonitor =>
      have hshrink : (w.perform c .demonitor).pending c ≤ w.pending c :=
        pending_shrink rfl rfl ((flushed_sublist c _).append_right _)
      exact hshrink.trans (le_add_of_nonneg_left (Multiset.zero_le _))
  | _ => exact le_add_of_nonneg_left (Multiset.zero_le _)

/-- What happens outside the caller brings no new request. -/
theorem Step.outside (h : Wired c w) (hst : Step c w act w') (hcaller : act ≠ .caller)
    (hexpire : act ≠ .expire) :
    w'.phase = w.phase ∧ w'.aliased = w.aliased ∧ w'.pending c ≤ w.pending c := by
  cases hst with
  | deliver htransit _ =>
      refine ⟨rfl, rfl, pending_shrink rfl rfl ?_⟩
      rw [news, news, htransit, List.append_assoc]
      exact .refl _
  | discard htransit _ =>
      refine ⟨rfl, rfl, pending_shrink rfl rfl ?_⟩
      rw [news, news, htransit]
      exact (List.sublist_cons_self _ _).append_left _
  | @disturb message =>
      refine ⟨rfl, rfl, le_of_eq ?_⟩
      have hkind : replyKinds c [.other message] = 0 := rfl
      simp only [pending, news, replyKinds_append, hkind, add_zero]
  | @owner o i rest left sent reason howner hsource hmove =>
      have hcoming := move_coming (h.owner o howner) hmove hsource
      refine ⟨rfl, rfl, ?_⟩
      simp only [pending, news, ← List.append_assoc, replyKinds_append, obituary_kinds,
        add_zero, replyKinds_sent, howner, add_assoc]
      exact add_le_add_right (add_le_add_right hcoming _) _
  | @kill o reason howner =>
      refine ⟨rfl, rfl, ?_⟩
      simp only [pending, news, ← List.append_assoc, replyKinds_append, obituary_kinds, add_zero,
        coming]
      exact le_add_of_nonneg_right (Multiset.zero_le _)
  | expire _ _ => exact absurd rfl hexpire
  | _ => exact absurd rfl hcaller

/-- A message that no clause of the receive accepts is no reply to the request. -/
theorem unaccepted (hpending : w.pending c ≤ {a.kind}) (hm : m ∈ w.news)
    (hnone : a.clauses c (m.seen c) = none) : m.kind c = none := by
  cases hkind : m.kind c with
  | none => rfl
  | some kind =>
      obtain ⟨answer, hseen, hanswer⟩ := Arrival.kind_some.mp hkind
      have hmem : kind ∈ replyKinds c w.news :=
        Multiset.mem_coe.mpr (List.mem_filterMap.mpr ⟨m, hm, hkind⟩)
      have heq : kind = a.kind := Multiset.mem_singleton.mp
        (Multiset.mem_of_le hpending (Multiset.mem_add.mpr (.inl hmem)))
      rw [hseen, Await.clauses_none, hanswer] at hnone
      exact absurd heq hnone

/-- Taking the awaited message leaves nothing that could come. -/
theorem receive_pending (h : Wired c w) (hpending : w.pending c ≤ {a.kind}) {box : List Arrival}
    (hreceive : Mailbox.receive (fun m => a.clauses c (m.seen c)) w.mailbox = some (clause, box)) :
    ({ w with mailbox := box } : Exchange).pending c = 0 ∧
      ((∃ answer, a.clauses c (.reply answer) = some clause) ∨
        ∃ reason, a.clauses c (.down reason) = some clause) := by
  obtain ⟨before, m, after, hbox, rfl, hclause, hbefore⟩ := Mailbox.receive_some hreceive
  have hnews : w.news = before ++ m :: (after ++ w.transit) := by
    rw [news, hbox, List.append_assoc]
    rfl
  have hrest : ({ w with mailbox := before ++ after } : Exchange).news =
      before ++ (after ++ w.transit) := List.append_assoc ..
  cases hseen : m.seen c with
  | other =>
      rw [hseen, Await.clauses_other] at hclause
      cases hclause
  | reply answer =>
      rw [hseen] at hclause
      refine ⟨?_, .inl ⟨answer, hclause⟩⟩
      -- The reply is all that was pending.
      have hkind : m.kind c = some a.kind :=
        Arrival.kind_some.mpr ⟨answer, hseen, Await.clauses_kind hclause⟩
      have hfirst : replyKinds c (m :: (after ++ w.transit)) =
          {a.kind} + replyKinds c (after ++ w.transit) := by
        rw [replyKinds, Multiset.coe_filterMap_cons, hkind]
        rfl
      have htotal : w.pending c =
          {a.kind} + ({ w with mailbox := before ++ after } : Exchange).pending c := by
        simp only [pending, hnews, hrest, replyKinds_append c before, hfirst]
        rw [add_left_comm, add_assoc]
      rw [htotal] at hpending
      exact Multiset.le_zero.mp (le_of_add_le_add_left (hpending.trans_eq (add_zero _).symm))
  | down reason =>
      rw [hseen] at hclause
      refine ⟨?_, .inr ⟨reason, hclause⟩⟩
      -- The owner is gone and had sent nothing that is not here.
      have hdown : (c.ownerDownReason m).isSome = true := by
        rw [Client.ownerDownReason_some.mpr hseen]
        rfl
      have hm : m ∈ w.news := by simp [hnews]
      have hgone := h.down m hm hdown
      have horder := h.order
      rw [hnews] at horder
      have hafter := (List.pairwise_cons.mp (List.pairwise_append.mp horder).2.1).1
      have hzero : replyKinds c (before ++ (after ++ w.transit)) = 0 := by
        rw [replyKinds_zero]
        intro n hn
        rcases List.mem_append.mp hn with hn | hn
        · exact unaccepted hpending (by simp [hnews, hn]) (hbefore n hn)
        · exact hafter n hn hdown
      show replyKinds c ({ w with mailbox := before ++ after } : Exchange).news +
        coming c w.inbox w.owner = 0
      rw [hrest, hzero, hgone]
      rfl

/-- **One step keeps what the caller expects.** -/
theorem Step.expects (h : Wired c w) (he : Expects c w) (hst : Step c w act w') : Expects c w' := by
  by_cases hcaller : act ≠ .caller ∧ act ≠ .expire
  · obtain ⟨hphase, haliased, hpending⟩ := hst.outside h hcaller.1 hcaller.2
    exact he.mono hphase haliased hpending
  cases hst with
  | remote hphase _ =>
      rw [Expects, hphase] at he
      exact he.1
  | monitor hphase _ =>
      rw [Expects, hphase] at he
      refine ⟨he.1, Multiset.le_zero.mp (he.2 ▸ le_of_eq ?_)⟩
      have hkind :
        replyKinds c (if w.owner.isNone then [.down c.monitorRef .noproc] else []) = 0 := by
        split
        · exact replyKinds_zero.mpr (by simp [Arrival.kind, Arrival.seen])
        · rfl
      simp only [pending, news, ← List.append_assoc, replyKinds_append, hkind, add_zero]
  | alive hphase _ =>
      rw [Expects, hphase] at he
      show askedFor c [.openAlias, .send c.request] + w.pending c ≤ {c.awaits.kind}
      rw [he.2, add_zero]
      rw [askedFor, List.filterMap_cons_none rfl, Multiset.coe_filterMap_cons, Action.asks,
        Client.request_asks]
      rfl
  | notAlive hphase _ =>
      rw [Expects, hphase] at he
      exact he
  | downReason hphase hreceive =>
      rw [Expects, hphase] at he
      refine ⟨⟨by simp [Action.asks], by simp⟩, fun haliased => ?_, fun _ => ?_⟩
      · rw [he.1] at haliased
        cases haliased
      · exact Multiset.le_zero.mp (he.2 ▸ pending_shrink rfl rfl
          ((Mailbox.receive_sublist hreceive).append_right _))
  | noReason hphase _ =>
      rw [Expects, hphase] at he
      refine ⟨⟨by simp [Action.asks], by simp⟩, fun haliased => ?_, fun _ => he.2⟩
      rw [he.1] at haliased
      cases haliased
  | @act action todo next hphase =>
      rw [Expects, hphase] at he
      have hperform := pending_perform c w action
      have hasked : askedFor c (action :: todo) =
          ((action.asks c.requestRef).toList : Multiset ReplyKind) + askedFor c todo :=
        Multiset.coe_filterMap_cons ..
      cases next with
      | await a =>
          replace he : askedFor c (action :: todo) + w.pending c ≤ {a.kind} := he
          show askedFor c todo + (w.perform c action).pending c ≤ {a.kind}
          rw [hasked, add_assoc, add_left_comm] at he
          exact (add_le_add_right hperform _).trans he
      | returns result =>
          obtain ⟨⟨hasks, hshut⟩, haliased, hresult⟩ := he
          rw [hasks _ (List.mem_cons_self ..), Option.toList_none, Multiset.coe_nil, zero_add]
            at hperform
          refine ⟨⟨fun x hx => hasks x (List.mem_cons_of_mem _ hx),
            fun h => hshut (List.mem_cons_of_mem _ h)⟩, fun hactive => ?_,
            fun h => Multiset.le_zero.mp (hresult h ▸ hperform)⟩
          have hmem (hne : action ≠ .unalias) (hw : w.aliased = true) : .unalias ∈ todo :=
            (List.mem_cons.mp (haliased hw)).resolve_left (Ne.symm hne)
          cases action with
          | send message => exact hmem (by simp) hactive
          | openAlias => exact absurd (List.mem_cons_self ..) hshut
          | unalias => cases hactive
          | demonitor => exact hmem (by simp) hactive
  | await hphase =>
      rw [Expects, hphase] at he
      exact (le_add_of_nonneg_left (Multiset.zero_le _)).trans he
  | returns hphase =>
      rw [Expects, hphase] at he
      show w.aliased = false
      cases haliased : w.aliased with
      | false => rfl
      | true => cases he.2.1 haliased
  | @receive a clause box hphase hreceive =>
      rw [Expects, hphase] at he
      obtain ⟨hpending, ⟨answer, hclause⟩ | ⟨reason, hclause⟩⟩ := receive_pending h he hreceive
      · obtain ⟨message, b, rfl, hasks⟩ | ⟨todo, result, rfl, hparting, hunalias, -⟩ :=
          Await.clauses_reply hclause
        · refine (add_le_add_right hpending.le _).trans_eq ?_
          rw [add_zero, askedFor, Multiset.coe_filterMap_cons, Action.asks, hasks]
          rfl
        · exact ⟨hparting, fun _ => hunalias, fun _ => hpending⟩
      · obtain ⟨result, rfl, -⟩ := Await.clauses_down hclause
        exact ⟨⟨by simp [Action.asks], by simp⟩, fun _ => List.mem_singleton_self _,
          fun _ => hpending⟩
  | @expire a hphase _ =>
      exact ⟨Await.after_parting, fun _ => by simp [Await.after],
        fun h => by rw [Await.cancel_timedOut] at h; cases h⟩
  | _ => simp at hcaller

/-! ### Replies that stay -/

/-- A reply to the request is in the mailbox. -/
def Residual (c : Client) (w : Exchange) : Prop := ∃ m ∈ w.mailbox, m.kind c ≠ none

/-- A reply arrives when the `after` has expired and the alias is still active. -/
def Late (c : Client) (v : Visit Exchange Act) : Prop :=
  v.input = .arrive ∧ v.pre.aliased = true ∧
    (∃ todo result, v.pre.phase = .running todo (.returns result) ∧ result.timedOut = true) ∧
      ∃ m rest, v.pre.transit = m :: rest ∧ m.kind c ≠ none

theorem residual_iff : w.Residual c ↔ replyKinds c w.mailbox ≠ 0 := by
  rw [Ne, replyKinds_zero]
  simp [Residual]

/-- Where nothing can come nothing is. -/
theorem not_residual (h : w.pending c = 0) : ¬w.Residual c := by
  rw [residual_iff, not_not]
  refine Multiset.le_zero.mp (h ▸ ?_)
  rw [pending, news, replyKinds_append, add_assoc]
  exact le_add_of_nonneg_right (Multiset.zero_le _)

/-- A flush takes no reply. -/
theorem residual_flushed (c : Client) (box : List Arrival) :
    replyKinds c (flushed c box) = replyKinds c box := by
  rw [replyKinds, flushed, List.filterMap_filter]
  refine congrArg _ (List.filterMap_congr fun m _ => ?_)
  cases hdown : c.ownerDownReason m with
  | none => rfl
  | some reason => simp [Arrival.kind, Client.ownerDownReason_some.mp hdown]

/-- A reply that is delivered to a caller about to return is late. -/
theorem deliver_late (he : Expects c w) {rest : List Arrival} (htransit : w.transit = m :: rest)
    (haccepts : w.accepts (m.seen c) = true) (hkind : m.kind c ≠ none)
    (hparting : w.phase.parting = true) : Late c ⟨w, .arrive, w'⟩ := by
  obtain ⟨kind, hkind'⟩ := Option.ne_none_iff_exists'.mp hkind
  obtain ⟨answer, hseen, -⟩ := Arrival.kind_some.mp hkind'
  have haliased : w.aliased = true := by
    rw [hseen] at haccepts
    exact haccepts
  refine ⟨rfl, haliased, ?_, m, rest, htransit, hkind⟩
  -- With the alias active and a reply under way only an expired call is about to return.
  cases hphase : w.phase with
  | running todo next =>
      rw [Expects, hphase] at he
      cases next with
      | await a =>
          rw [hphase] at hparting
          cases hparting
      | returns result =>
          refine ⟨todo, result, rfl, ?_⟩
          by_contra hresult
          have hzero := he.2.2 (Bool.not_eq_true _ ▸ hresult)
          have hnews : replyKinds c w.news = 0 := Multiset.le_zero.mp
            (hzero ▸ le_add_of_nonneg_right (Multiset.zero_le _))
          refine hkind (replyKinds_zero.mp hnews m ?_)
          simp [news, htransit]
  | returned result =>
      rw [Expects, hphase] at he
      rw [he] at haliased
      cases haliased
  | _ =>
      rw [hphase] at hparting
      cases hparting

/-- A step that takes no reply out of the mailbox and brings none. -/
theorem residual_still (hphase : w'.phase.parting = w.phase.parting)
    (hbox : replyKinds c w'.mailbox = replyKinds c w.mailbox) (hlate : ¬Late c ⟨w, act, w'⟩) :
    w'.phase.parting = true ∧ w'.Residual c ↔
      (w.phase.parting = true ∧ w.Residual c) ∨ Late c ⟨w, act, w'⟩ := by
  rw [hphase, residual_iff, residual_iff, hbox]
  exact ⟨.inl, fun h => h.resolve_right hlate⟩

/-- A step of a caller that still waits, and has no reply when it does not any
more. -/
theorem residual_fresh (hphase : w.phase.parting = false)
    (hafter : w'.phase.parting = true → ¬w'.Residual c) (hlate : ¬Late c ⟨w, act, w'⟩) :
    w'.phase.parting = true ∧ w'.Residual c ↔
      (w.phase.parting = true ∧ w.Residual c) ∨ Late c ⟨w, act, w'⟩ := by
  refine ⟨fun h => absurd h.2 (hafter h.1), fun h => ?_⟩
  rcases h with ⟨hparting, -⟩ | h
  · rw [hphase] at hparting
    cases hparting
  · exact absurd h hlate

/-- **One step leaves a reply behind exactly when it delivers one late.** -/
theorem Step.residual (h : Wired c w) (he : Expects c w) (hst : Step c w act w') :
    w'.phase.parting = true ∧ w'.Residual c ↔
      (w.phase.parting = true ∧ w.Residual c) ∨ Late c ⟨w, act, w'⟩ := by
  have hwaiting {p : Phase} (hphase : w.phase = p) (hp : p.parting = false) :
      w.phase.parting = false := hphase ▸ hp
  cases hst with
  | remote hphase _ =>
      rw [Expects, hphase] at he
      exact residual_fresh (hwaiting hphase rfl) (fun _ => not_residual (w := w) he.2)
        (by simp [Late])
  | monitor hphase _ =>
      exact residual_fresh (hwaiting hphase rfl) (by simp [Phase.parting]) (by simp [Late])
  | alive hphase _ =>
      exact residual_fresh (hwaiting hphase rfl) (by simp [Phase.parting]) (by simp [Late])
  | notAlive hphase _ =>
      exact residual_fresh (hwaiting hphase rfl) (by simp [Phase.parting]) (by simp [Late])
  | @downReason reason box hphase hreceive =>
      rw [Expects, hphase] at he
      have hzero : ({ w with mailbox := box } : Exchange).pending c = 0 := Multiset.le_zero.mp
        (he.2 ▸ pending_shrink rfl rfl ((Mailbox.receive_sublist hreceive).append_right _))
      exact residual_fresh (hwaiting hphase rfl)
        (fun _ => not_residual (w := { w with mailbox := box }) hzero) (by simp [Late])
  | noReason hphase _ =>
      rw [Expects, hphase] at he
      exact residual_fresh (hwaiting hphase rfl) (fun _ => not_residual (w := w) he.2)
        (by simp [Late])
  | @act action todo next hphase =>
      refine residual_still ?_ ?_ (by simp [Late])
      · rw [hphase]
        cases next <;> rfl
      · cases action with
        | demonitor => exact residual_flushed c w.mailbox
        | _ => rfl
  | await hphase =>
      exact residual_fresh (hwaiting hphase rfl) (by simp [Phase.parting]) (by simp [Late])
  | returns hphase =>
      refine residual_still ?_ rfl (by simp [Late])
      rw [hphase]
      rfl
  | @receive a clause box hphase hreceive =>
      rw [Expects, hphase] at he
      have hzero := (receive_pending h he hreceive).1
      exact residual_fresh (hwaiting hphase rfl)
        (fun _ => not_residual (w := { w with mailbox := box }) hzero) (by simp [Late])
  | @expire a hphase hreceive =>
      rw [Expects, hphase] at he
      refine residual_fresh (hwaiting hphase rfl) (fun _ => ?_) (by simp [Late])
      rintro ⟨m, hm, hkind⟩
      exact hkind (unaccepted he (List.mem_append_left _ hm)
        (Mailbox.receive_none.mp hreceive m hm))
  | @deliver m rest htransit haccepts =>
      have hbox : replyKinds c (w.mailbox ++ [m]) = replyKinds c w.mailbox + replyKinds c [m] :=
        replyKinds_append ..
      by_cases hkind : m.kind c = none
      · have hone : replyKinds c [m] = 0 := replyKinds_zero.mpr (by simpa using hkind)
        refine residual_still rfl (by rw [hbox, hone, add_zero]) ?_
        rintro ⟨-, -, -, n, rest', hn, hother⟩
        rw [htransit] at hn
        cases hn
        exact hother hkind
      · refine ⟨fun hparting => .inr ?_, fun hlate => ?_⟩
        · exact deliver_late he htransit haccepts hkind hparting.1
        · refine ⟨?_, m, by simp, hkind⟩
          rcases hlate with hparting | ⟨-, -, ⟨todo, result, hphase, -⟩, -⟩
          · exact hparting.1
          · show w.phase.parting = true
            rw [hphase]
            rfl
  | @discard m rest htransit haccepts =>
      refine residual_still rfl rfl ?_
      rintro ⟨-, haliased, -, n, rest', hn, hkind⟩
      rw [htransit] at hn
      cases hn
      obtain ⟨kind, hkind'⟩ := Option.ne_none_iff_exists'.mp hkind
      obtain ⟨answer, hseen, -⟩ := Arrival.kind_some.mp hkind'
      rw [hseen] at haccepts
      exact absurd (haccepts.symm.trans haliased) (by simp)
  | @disturb message =>
      refine residual_still rfl ?_ (by simp [Late])
      exact (replyKinds_append ..).trans (add_zero _)
  | owner reason howner hsource hmove => exact residual_still rfl rfl (by simp [Late])
  | kill reason howner => exact residual_still rfl rfl (by simp [Late])

/-! ### Runs -/

variable {visits : List (Visit Exchange Act)}

theorem Init.sound (h : Init c w) : Wired c w ∧ Expects c w := by
  have hmailbox : ∀ m ∈ w.mailbox, c.ownerDownReason m = none ∧ m.kind c = none := fun m hm => by
    simp [Client.ownerDownReason, Arrival.kind, h.mailbox m hm]
  have hnews : w.news = w.mailbox := by rw [news, h.transit, List.append_nil]
  refine ⟨⟨fun o ho => ⟨[], o, h.owner o ho, .nil⟩, ?_, ?_⟩, ?_⟩
  · intro m hm hdown
    rw [(hmailbox m (hnews ▸ hm)).1] at hdown
    cases hdown
  · rw [hnews, ← List.append_nil w.mailbox]
    exact order_append (fun m hm => (hmailbox m hm).1) (by simp)
  · rw [Expects, h.phase]
    refine ⟨h.aliased, ?_⟩
    have hzero : replyKinds c w.news = 0 :=
      replyKinds_zero.mpr fun m hm => (hmailbox m (hnews ▸ hm)).2
    rw [pending, hzero, zero_add, h.inbox]
    cases howner : w.owner with
    | none => rfl
    | some o => exact (zero_add _).trans (h.owner o howner).owes

theorem Run.sound (h : Run c visits w) : Wired c w ∧ Expects c w := by
  obtain ⟨w₀, hinit, hpath⟩ := h
  exact hpath.invariant (P := fun w => Wired c w ∧ Expects c w)
    (fun _ _ _ hs hst => ⟨hst.wired hs.1, hst.expects hs.1 hs.2⟩) hinit.sound

/-- A reply is left behind exactly when one came late. -/
theorem Run.residual (h : Run c visits w) :
    w.phase.parting = true ∧ w.Residual c ↔ ∃ v ∈ visits, Late c v := by
  obtain ⟨w₀, hinit, hpath⟩ := h
  induction hpath with
  | nil => simp [hinit.phase, Phase.parting]
  | @snoc visits w act w' hp hst ih =>
      obtain ⟨hwired, hexpects⟩ := Run.sound ⟨w₀, hinit, hp⟩
      rw [hst.residual hwired hexpects, ih]
      simp [or_and_right, exists_or]

theorem Step.returned (hst : Step c w act w') {result : Result} (h : w.phase = .returned result) :
    w'.phase = .returned result := by
  cases hst with
  | deliver _ _ => exact h
  | discard _ _ => exact h
  | disturb => exact h
  | owner _ _ _ _ => exact h
  | kill _ _ => exact h
  | remote hphase | monitor hphase | alive hphase | notAlive hphase | downReason hphase
  | noReason hphase | act hphase | await hphase | returns hphase | receive hphase | expire hphase =>
      rw [h] at hphase
      cases hphase

/-- No reply to the request is in the mailbox, and whatever happens none will be
delivered. -/
def Settled (c : Client) (w : Exchange) : Prop :=
  ∀ later w', Path (Step c) w later w' → ¬w'.Residual c

/-- **No residual reply.**  A caller that has returned has no message of its request,
and never gets one, exactly when none arrived between the expiry of an `after` and
`Process.unalias`. -/
theorem residual_replies (h : Run c visits w) {result : Result}
    (hreturned : w.phase = .returned result) :
    w.Settled c ↔ ∀ v ∈ visits, ¬Late c v := by
  have hparting : w.phase.parting = true := by rw [hreturned]; rfl
  refine ⟨fun hsettled v hv hlate => ?_, fun hlate later w' hlater hresidual => ?_⟩
  · exact hsettled [] w .nil (h.residual.mpr ⟨v, hv, hlate⟩).2
  · obtain ⟨w₀, hinit, hpath⟩ := h
    have hkept {before : List (Visit Exchange Act)} {w₁ : Exchange}
        (hbefore : Path (Step c) w before w₁) : w₁.phase = .returned result :=
      hbefore.invariant (P := fun w => w.phase = .returned result)
        (fun _ _ _ hphase hst => hst.returned hphase) hreturned
    have hrun : Run c (visits ++ later) w' := ⟨w₀, hinit, hpath.append hlater⟩
    have hparting' : w'.phase.parting = true := by rw [hkept hlater]; rfl
    obtain ⟨v, hv, hv'⟩ := hrun.residual.mp ⟨hparting', hresidual⟩
    rcases List.mem_append.mp hv with hv | hv
    · exact hlate v hv hv'
    · -- After the return no `after` is left that could have expired.
      obtain ⟨before, _, -, hbefore, -, -⟩ := hlater.mem_split hv
      obtain ⟨-, -, ⟨todo, _, hphase, -⟩, -⟩ := hv'
      rw [hkept hbefore] at hphase
      cases hphase

/-! ### A sample caller -/

/-- Process 100 issues the token 7. -/
def sampleClient : Client where
  self := 100
  ownerLocal := true
  monitorRef := 60
  requestRef := 50
  call := .issue (.integer 7) (.atom .nil)

/-- A new owner, and the caller before its call. -/
def sampleStart : Exchange where
  owner := (init (.plain 0) 1001 sampleOptions).toOption.map fun s => ⟨s, 9⟩
  inbox := []
  transit := []
  aliased := false
  monitored := false
  mailbox := []
  phase := .idle

theorem sampleStart_init : Init sampleClient sampleStart :=
  ⟨fun o ho => ⟨.plain 0, 1001, sampleOptions, by cases ho; exact ⟨rfl, rfl⟩⟩, rfl, rfl, rfl,
    by simp [sampleStart], rfl⟩

/-- The caller has asked for a reservation and waits. -/
theorem sample_waits : ∃ visits, Run sampleClient visits
      { sampleStart with
        inbox := [sampleClient.request]
        aliased := true
        monitored := true
        phase := .waiting (.issueReservation (.integer 7)) } ∧
    ∀ v ∈ visits, ¬Late sampleClient v :=
  ⟨_, ⟨sampleStart, sampleStart_init, ((((Path.nil.snoc (.monitor rfl rfl)).snoc
    (.alive rfl rfl)).snoc (.act rfl)).snoc (.act rfl)).snoc (.await rfl)⟩, by simp [Late]⟩

/-- The timeout expires before the owner has looked at the request. -/
theorem residual_replies_sample : ∃ visits w, Run sampleClient visits w ∧
    w.phase = .returned (.callerOwned .timeout) ∧ w.Settled sampleClient := by
  obtain ⟨visits, ⟨w₀, hinit, hpath⟩, hlate⟩ := sample_waits
  have hrun : Run sampleClient _ _ := ⟨w₀, hinit, ((((hpath.snoc (.expire rfl rfl)).snoc
    (.act rfl)).snoc (.act rfl)).snoc (.act rfl)).snoc (.returns rfl)⟩
  refine ⟨_, _, hrun, rfl, (residual_replies hrun rfl).mpr fun v hv => ?_⟩
  simp only [List.mem_append, List.mem_singleton, or_assoc] at hv
  rcases hv with hv | rfl | rfl | rfl | rfl | rfl
  · exact hlate v hv
  all_goals simp [Late]

/-- The reservation arrives between the expiry and `Process.unalias`. -/
theorem residual_reply_late : ¬∀ (c : Client) (visits : List (Visit Exchange Act)) (w : Exchange)
    (result : Result), Run c visits w → w.phase = .returned result → w.Settled c := by
  intro hclaim
  obtain ⟨visits, ⟨w₀, hinit, hpath⟩, -⟩ := sample_waits
  have hanswer := hpath.snoc (.owner (i := ⟨.plain 9, .info sampleClient.request⟩) (.atom .nil) rfl
    (.caller rfl rfl) (.lives (Owner.advance_step rfl)))
  have hrun : Run sampleClient _ _ := ⟨w₀, hinit, (((((hanswer.snoc (.expire rfl rfl)).snoc
    (.deliver rfl rfl)).snoc (.act rfl)).snoc (.act rfl)).snoc (.act rfl)).snoc (.returns rfl)⟩
  refine hclaim _ _ _ _ hrun rfl [] _ .nil ⟨_, List.mem_singleton_self _, ?_⟩
  simp [Arrival.kind, Arrival.seen, sampleClient]

end Exchange

end VideoInterop.LeaseOwner
