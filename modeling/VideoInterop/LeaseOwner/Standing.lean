import VideoInterop.LeaseOwner.Effects

/-!
# Where a process stands with the owner

What the owner keeps of one process's call, and what the process has said of it by then.
A reservation under its request is there only between its first message and its second,
a pending issue only between the second and the third; the monitor is the one that was
made for its request, and is gone once it has fired.

The owner's events are of three kinds for a process: the oldest of its own messages, the
signal of its death, and what is not its own.
-/

namespace VideoInterop.LeaseOwner

/-! ## The oldest message -/

/-- The oldest message of a process, with what it has sent before and does next. -/
inductive Process.Head (x : Process) : Message → Prop where
  | reserveIssue {backendToken metadata} (hcall : x.client.call = .issue backendToken metadata)
      (hhandled : x.handled = []) :
      Head x (.reserveIssue metadata x.client.self x.client.requestRef)
  | commitIssue {backendToken metadata reservation}
      (hcall : x.client.call = .issue backendToken metadata) (hhandled : x.handled.length = 1) :
      Head x (.commitIssue reservation backendToken x.client.self x.client.requestRef)
  | cancelIssueReservation {backendToken metadata reason}
      (hcall : x.client.call = .issue backendToken metadata) (hhandled : x.handled.length = 1)
      (hnext : x.phase.next? = some (.returns (.callerOwned reason))) :
      Head x (.cancelIssueReservation x.client.requestRef)
  | confirmIssue {backendToken metadata} {lease : Lease}
      (hcall : x.client.call = .issue backendToken metadata) (hhandled : x.handled.length = 2)
      (hnext : x.phase.next? = some (.returns (.ok lease))) (hsent : sends x.phase.todo = []) :
      Head x (.confirmIssue lease.token x.client.requestRef)
  | cancelIssue {backendToken metadata reason}
      (hcall : x.client.call = .issue backendToken metadata) (hhandled : x.handled.length = 2)
      (hnext : x.phase.next? = some (.returns (.transferred reason))) :
      Head x (.cancelIssue x.client.requestRef)
  | retain {lease childHolder valid} (hcall : x.client.call = .retain lease childHolder valid)
      (hhandled : x.handled = []) :
      Head x (.retain lease.token lease.holder childHolder x.client.self x.client.requestRef)
  | confirmRetain {lease childHolder valid}
      (hcall : x.client.call = .retain lease childHolder valid)
      (hhandled : x.handled.length = 1) :
      Head x (.confirmRetain lease.token childHolder x.client.requestRef)
  | cancelRetain {lease childHolder valid reason}
      (hcall : x.client.call = .retain lease childHolder valid) (hhandled : x.handled.length = 1)
      (hnext : x.phase.next? = some (.returns (.error reason))) :
      Head x (.cancelRetain lease.token childHolder)
  | drain (hcall : x.client.call = .drain) (hhandled : x.handled = []) :
      Head x (.drain x.client.self x.client.requestRef)
  | cancelDrain (hcall : x.client.call = .drain) : Head x (.cancelDrain x.client.requestRef)

/-- The script of a drain. -/
theorem Course.drain {c : Client} {messages : List Message} {next : Next} (hcall : c.call = .drain)
    (h : Course c messages next) :
    (next = .await .drain → messages = [.drain c.self c.requestRef]) ∧
      (messages = [] ∨ messages = [.drain c.self c.requestRef] ∨
        messages = [.drain c.self c.requestRef, .cancelDrain c.requestRef]) ∧
      ∀ a, next = .await a → a = .drain := by
  induction h with
  | request => simp [Client.request, Client.awaits, hcall]
  | remote => simp
  | ownerDown => simp
  | @receive messages a seen clause _ hclause ih =>
      obtain ⟨hmessages, -, hawait⟩ := ih
      obtain rfl := hawait a rfl
      rw [hmessages rfl]
      rcases seen with (_ | _ | _ | _) | _ | _ <;> cases hclause <;> simp
  | @expire messages a _ ih =>
      obtain ⟨hmessages, -, hawait⟩ := ih
      obtain rfl := hawait a rfl
      rw [hmessages rfl]
      simp [Await.after, Await.cancel]

/-- A list of at most three that has this element at this place. -/
theorem split_three {α : Type} {before after l : List α} {a : α} (h : before ++ a :: after = l)
    (hl : l.length ≤ 3) :
    (before = [] ∧ l = a :: after) ∨ (∃ b, before = [b] ∧ l = b :: a :: after) ∨
      ∃ b c, before = [b, c] ∧ after = [] ∧ l = [b, c, a] := by
  subst h
  rcases before with _ | ⟨b, _ | ⟨c, _ | ⟨d, before⟩⟩⟩
  · exact .inl ⟨rfl, rfl⟩
  · exact .inr (.inl ⟨b, rfl, rfl⟩)
  · have hnil : after = [] := by
      cases after with
      | nil => rfl
      | cons d after =>
          simp at hl
          omega
    subst hnil
    exact .inr (.inr ⟨b, c, rfl, rfl, rfl⟩)
  · simp at hl
    omega

section

variable {x y : Process} {message : Message} {rest : List Message}

/-- The script around the oldest message. -/
theorem Process.script_split (hinbox : x.inbox = message :: rest) :
    x.handled ++ message :: (rest ++ sends x.phase.todo) = x.script := by
  simp [Process.script, hinbox]

theorem Process.Scripted.head (h : x.Scripted) (hinbox : x.inbox = message :: rest) :
    x.Head message := by
  have hsplit := x.script_split hinbox
  have hnil : rest ++ sends x.phase.todo = [] → sends x.phase.todo = [] := fun heq =>
    (List.append_eq_nil_iff.mp heq).2
  generalize rest ++ sends x.phase.todo = tail at hsplit hnil
  cases hnext : x.phase.next? with
  | none =>
      rw [h.silent hnext] at hsplit
      simp at hsplit
  | some next =>
      have hcourse := h.course next hnext
      cases hcall : x.client.call with
      | issue backendToken metadata =>
          have hissue := hcourse.issue hcall
          generalize x.script = script at hsplit hissue
          rcases split_three hsplit (by cases hissue <;> simp) with
            ⟨hhandled, hl⟩ | ⟨b, hhandled, hl⟩ | ⟨b, d, hhandled, htail, hl⟩
          · cases hissue <;> cases hl <;> exact .reserveIssue hcall hhandled
          · have hlength : x.handled.length = 1 := by rw [hhandled]; rfl
            cases hissue <;> cases hl
            · exact .cancelIssueReservation hcall hlength hnext
            all_goals exact .commitIssue hcall hlength
          · have hlength : x.handled.length = 2 := by rw [hhandled]; rfl
            have hsent := hnil htail
            cases hissue <;> cases hl
            · exact .confirmIssue hcall hlength hnext hsent
            · exact .cancelIssue hcall hlength hnext
      | drain =>
          obtain ⟨-, hmessages, -⟩ := hcourse.drain hcall
          generalize x.script = script at hsplit hmessages
          rcases split_three hsplit (by rcases hmessages with rfl | rfl | rfl <;> simp) with
            ⟨hhandled, hl⟩ | ⟨b, hhandled, hl⟩ | ⟨b, d, hhandled, htail, hl⟩
          · rcases hmessages with rfl | rfl | rfl <;> cases hl <;> exact .drain hcall hhandled
          · rcases hmessages with rfl | rfl | rfl <;> cases hl
            exact .cancelDrain hcall
          · rcases hmessages with rfl | rfl | rfl <;> cases hl
      | retain lease childHolder valid =>
          have hretain := hcourse.retain hcall
          generalize x.script = script at hsplit hretain
          rcases split_three hsplit (by cases hretain <;> simp) with
            ⟨hhandled, hl⟩ | ⟨b, hhandled, hl⟩ | ⟨b, d, hhandled, htail, hl⟩
          · cases hretain <;> cases hl <;> exact .retain hcall hhandled
          · have hlength : x.handled.length = 1 := by rw [hhandled]; rfl
            cases hretain <;> cases hl
            · exact .confirmRetain hcall hlength
            · exact .cancelRetain hcall hlength hnext
          · cases hretain <;> cases hl

/-- The messages of another process are foreign. -/
theorem Process.Head.foreign (h : y.Head message)
    (hrequest : y.client.requestRef ≠ x.client.requestRef)
    (hchild : ∀ childHolder, y.client.childHolder? = some childHolder →
      x.client.childHolder? ≠ some childHolder) : message.Foreign x.client := by
  have hrequest' : some y.client.requestRef ≠ some x.client.requestRef := fun heq =>
    hrequest (Option.some.inj heq)
  have hown {lease : Lease} {child : Ref} {valid : AbandonmentGuard → Bool}
      (hcall : y.client.call = .retain lease child valid) (childHolder : Ref)
      (hx : x.client.childHolder? = some childHolder) : some child ≠ some childHolder := by
    rintro ⟨⟩
    exact hchild child (by rw [Client.childHolder?, hcall]) hx
  cases h with
  | reserveIssue _ _ => exact ⟨hrequest', by simp [Message.childHolder?]⟩
  | commitIssue _ _ => exact ⟨hrequest', by simp [Message.childHolder?]⟩
  | cancelIssueReservation _ _ _ => exact ⟨hrequest', by simp [Message.childHolder?]⟩
  | confirmIssue _ _ _ _ => exact ⟨hrequest', by simp [Message.childHolder?]⟩
  | cancelIssue _ _ _ => exact ⟨hrequest', by simp [Message.childHolder?]⟩
  | retain hcall _ => exact ⟨hrequest', hown hcall⟩
  | confirmRetain hcall _ => exact ⟨hrequest', hown hcall⟩
  | cancelRetain hcall _ _ => exact ⟨by simp [Message.requestRef?], hown hcall⟩
  | drain _ _ => exact ⟨hrequest', by simp [Message.childHolder?]⟩
  | cancelDrain _ => exact ⟨hrequest', by simp [Message.childHolder?]⟩

/-- No message of a process is a signal. -/
theorem Process.Head.not_fired (h : x.Head message) (monitorRef : Ref) :
    ¬Fired (.info message) monitorRef := by
  rintro ⟨reason, heq⟩
  cases heq
  cases h

/-- What an issue says second. -/
theorem Process.Head.issue_second (h : x.Head message)
    (hissue : ∃ backendToken metadata, x.client.call = .issue backendToken metadata)
    (hhandled : x.handled.length = 1) :
    (∃ reservation backendToken,
        message = .commitIssue reservation backendToken x.client.self x.client.requestRef) ∨
      message = .cancelIssueReservation x.client.requestRef := by
  obtain ⟨backendToken, metadata, hissue⟩ := hissue
  cases h with
  | reserveIssue _ hnil => simp [hnil] at hhandled
  | commitIssue _ _ => exact .inl ⟨_, _, rfl⟩
  | cancelIssueReservation _ _ _ => exact .inr rfl
  | confirmIssue _ htwo _ _ => omega
  | cancelIssue _ htwo _ => omega
  | retain _ hnil => simp [hnil] at hhandled
  | confirmRetain hcall _ => simp [hissue] at hcall
  | cancelRetain hcall _ _ => simp [hissue] at hcall
  | drain _ hnil => simp [hnil] at hhandled
  | cancelDrain hcall => simp [hissue] at hcall

/-- What an issue says third. -/
theorem Process.Head.issue_third (h : x.Head message)
    (hissue : ∃ backendToken metadata, x.client.call = .issue backendToken metadata)
    (hhandled : x.handled.length = 2) :
    (∃ lease : Lease, message = .confirmIssue lease.token x.client.requestRef ∧
        x.phase.next? = some (.returns (.ok lease)) ∧ sends x.phase.todo = []) ∨
      message = .cancelIssue x.client.requestRef := by
  obtain ⟨backendToken, metadata, hissue⟩ := hissue
  cases h with
  | reserveIssue _ hnil => simp [hnil] at hhandled
  | commitIssue _ hone => omega
  | cancelIssueReservation _ hone _ => omega
  | confirmIssue _ _ hnext hsent => exact .inl ⟨_, rfl, hnext, hsent⟩
  | cancelIssue _ _ _ => exact .inr rfl
  | retain _ hnil => simp [hnil] at hhandled
  | confirmRetain hcall _ => simp [hissue] at hcall
  | cancelRetain hcall _ _ => simp [hissue] at hcall
  | drain _ hnil => simp [hnil] at hhandled
  | cancelDrain hcall => simp [hissue] at hcall

/-- What a retain says second. -/
theorem Process.Head.retain_second {lease : Lease} {childHolder : Ref}
    {valid : AbandonmentGuard → Bool} (h : x.Head message)
    (hretain : x.client.call = .retain lease childHolder valid) (hhandled : x.handled.length = 1) :
    message = .confirmRetain lease.token childHolder x.client.requestRef ∨
      message = .cancelRetain lease.token childHolder := by
  cases h with
  | reserveIssue _ hnil => simp [hnil] at hhandled
  | commitIssue hcall _ => simp [hretain] at hcall
  | cancelIssueReservation hcall _ _ => simp [hretain] at hcall
  | confirmIssue hcall _ _ _ => simp [hretain] at hcall
  | cancelIssue hcall _ _ => simp [hretain] at hcall
  | retain _ hnil => simp [hnil] at hhandled
  | confirmRetain hcall _ =>
      rw [hretain] at hcall
      cases hcall
      exact .inl rfl
  | cancelRetain hcall _ _ =>
      rw [hretain] at hcall
      cases hcall
      exact .inr rfl
  | drain _ hnil => simp [hnil] at hhandled
  | cancelDrain hcall => simp [hretain] at hcall

end

/-! ## What a process has in hand -/

/-- The process is alive, and an answer to its request is in its mailbox or on its way. -/
structure Process.Hears (x : Process) (answer : Reply) : Prop where
  /-- It lives. -/
  alive : x.alive = true
  /-- The answer is there. -/
  mem : .reply x.client.requestRef answer ∈ x.transit ++ x.mailbox

/-- The process holds a lease or is about to: the grant has not come to it yet, or it
returns the lease and nothing that it has to send for that is lost. -/
inductive Process.Holds (x : Process) : Ref → Ref → Prop where
  | issued {lease : Lease} (hawaits : ∀ result, x.phase.next? ≠ some (.returns result))
      (hhears : x.Hears (.issued (.ok lease))) : Holds x lease.token lease.holder
  | retained {lease childHolder valid guard}
      (hcall : x.client.call = .retain lease childHolder valid)
      (hawaits : ∀ result, x.phase.next? ≠ some (.returns result))
      (hhears : x.Hears (.retained (.ok guard))) : Holds x lease.token childHolder
  | returned {lease : Lease} (hnext : x.phase.next? = some (.returns (.ok lease)))
      (hsent : x.alive = true ∨ sends x.phase.todo = []) : Holds x lease.token lease.holder

/-- What a process holds is of its own call: the lease of its commit, or the holder that it
asked for. -/
def Process.Informed (x : Process) : Prop :=
  ∀ token holder, x.Holds token holder → x.handled ≠ [] ∧
    ((∃ backendToken metadata, x.client.call = .issue backendToken metadata ∧
        x.token = some token) ∨
      ∃ lease valid, x.client.call = .retain lease holder valid ∧ token = lease.token)

/-- A message of the process is on its way to the owner, or is about to be sent. -/
def Process.Says (x : Process) (message : Message) : Prop :=
  message ∈ x.inbox ∨ x.alive = true ∧ message ∈ sends x.phase.todo

/-- The process can commit a reservation: it may still take the grant, or its commit is on
its way. -/
inductive Process.Claims (x : Process) : Ref → Prop where
  | granted {reservation} (hsilent : ∀ message ∈ x.script, message.commits = false)
      (hawaits : ∀ result, x.phase.next? ≠ some (.returns result))
      (hhears : x.Hears (.issueReserved (.ok reservation))) : Claims x reservation
  | said {reservation backendToken replyTo requestRef}
      (hspoken : x.Says (.commitIssue reservation backendToken replyTo requestRef)) :
      Claims x reservation

theorem Arrival.seen_reply {c : Client} {m : Arrival} {answer : Reply}
    (h : m.seen c = .reply answer) : m = .reply c.requestRef answer := by
  cases m with
  | reply requestRef answer' =>
      simp only [Arrival.seen] at h
      split at h
      · next heq =>
          cases h
          rw [heq]
      · cases h
  | down monitorRef reason =>
      simp only [Arrival.seen] at h
      split at h <;> cases h
  | other message => cases h

section

variable {c : Client} {a : Await} {seen : Seen} {clause : Clause}

/-- A clause that goes on to another receive commits the reservation that was granted. -/
theorem Await.clauses_await {b : Await} (hclause : a.clauses c seen = some clause)
    (hnext : clause.next = .await b) :
    ∃ backendToken reservation, a = .issueReservation backendToken ∧ b = .committedIssue ∧
      seen = .reply (.issueReserved (.ok reservation)) ∧
      clause.actions = [.send (.commitIssue reservation backendToken c.self c.requestRef)] := by
  cases a with
  | issueReservation backendToken =>
      rcases seen with ((_ | reservation) | _ | _ | _) | _ | _ <;> cases hclause <;> cases hnext
      exact ⟨backendToken, reservation, rfl, rfl, rfl, rfl⟩
  | committedIssue =>
      rcases seen with (_ | (_ | _) | _ | _) | _ | _ <;> cases hclause <;> cases hnext
  | drain => rcases seen with (_ | _ | _ | _) | _ | _ <;> cases hclause <;> cases hnext
  | retain lease childHolder valid =>
      rcases seen with (_ | _ | (_ | _) | _) | _ | _ <;>
        simp only [Await.clauses, awaitRetain, reduceCtorEq, Option.some.injEq] at hclause
      · subst hclause
        cases hnext
      · split at hclause <;> cases hclause <;> cases hnext
      · subst hclause
        cases hnext

/-- A clause that returns a lease returns the one that was granted. -/
theorem Await.clauses_ok {lease : Lease} (hclause : a.clauses c seen = some clause)
    (hnext : clause.next = .returns (.ok lease)) :
    (a = .committedIssue ∧ seen = .reply (.issued (.ok lease))) ∨
      ∃ parent childHolder valid childGuard, a = .retain parent childHolder valid ∧
        seen = .reply (.retained (.ok childGuard)) ∧ lease.token = parent.token ∧
        lease.holder = childHolder := by
  cases a with
  | issueReservation backendToken =>
      rcases seen with ((_ | reservation) | _ | _ | _) | _ | _ <;> cases hclause <;> cases hnext
  | committedIssue =>
      rcases seen with (_ | (_ | lease') | _ | _) | _ | _ <;> cases hclause <;> cases hnext
      exact .inl ⟨rfl, rfl⟩
  | drain => rcases seen with (_ | _ | _ | _) | _ | _ <;> cases hclause <;> cases hnext
  | retain parent childHolder valid =>
      rcases seen with (_ | _ | (_ | childGuard) | _) | _ | _ <;>
        simp only [Await.clauses, awaitRetain, reduceCtorEq, Option.some.injEq] at hclause
      · subst hclause
        cases hnext
      · split at hclause <;> cases hclause <;> cases hnext
        exact .inr ⟨parent, childHolder, valid, childGuard, rfl, rfl, rfl, rfl⟩
      · subst hclause
        cases hnext

/-- A clause that returns commits nothing. -/
theorem Await.clauses_returns {result : Result} (hclause : a.clauses c seen = some clause)
    (hnext : clause.next = .returns result) : ∀ message ∈ sends clause.actions,
      message.commits = false := by
  cases a with
  | issueReservation backendToken =>
      rcases seen with ((_ | reservation) | _ | _ | _) | _ | _ <;> cases hclause <;> cases hnext <;>
        simp
  | committedIssue =>
      rcases seen with (_ | (_ | lease') | _ | _) | _ | _ <;> cases hclause <;> cases hnext <;>
        simp [Message.commits]
  | drain =>
      rcases seen with (_ | _ | _ | _) | _ | _ <;> cases hclause <;> cases hnext <;> simp
  | retain parent childHolder valid =>
      rcases seen with (_ | _ | (_ | childGuard) | _) | _ | _ <;>
        simp only [Await.clauses, awaitRetain, reduceCtorEq, Option.some.injEq] at hclause
      · subst hclause
        simp
      · split at hclause <;> cases hclause <;> simp [Message.commits]
      · subst hclause
        simp

/-- A call waits for its first answer, or for the lease of its commit. -/
theorem Course.awaits {messages : List Message} (h : Course c messages (.await a)) :
    (messages = [c.request] ∧ a = c.awaits) ∨ a = .committedIssue := by
  generalize hnext : Next.await a = next at h
  cases h with
  | request =>
      cases hnext
      exact .inl ⟨rfl, rfl⟩
  | remote => cases hnext
  | ownerDown => cases hnext
  | receive _ hclause =>
      obtain ⟨_, _, -, rfl, -⟩ := Await.clauses_await hclause hnext.symm
      exact .inr rfl
  | expire _ => cases hnext

theorem Client.request_commits : c.request.commits = false := by
  unfold Client.request
  split <;> rfl

/-- A call that waits for a retain is that retain. -/
theorem Course.retaining {messages : List Message} {lease : Lease} {childHolder : Ref}
    {valid : AbandonmentGuard → Bool}
    (h : Course c messages (.await (.retain lease childHolder valid))) :
    c.call = .retain lease childHolder valid := by
  rcases h.awaits with ⟨-, hfirst⟩ | hsecond
  · unfold Client.awaits at hfirst
    split at hfirst <;> cases hfirst
    assumption
  · cases hsecond

end

section

variable {x : Process} {owner : Option Owner} {act : Exchange.Act} {e : Exchange}

/-- A step of the caller's side brings no answer. -/
theorem Exchange.Step.hears (hown : act.own = true)
    (hst : Exchange.Step x.client (x.exchange owner) act e) {answer : Reply}
    (h : (x.after e).Hears answer) : x.Hears answer := by
  obtain ⟨halive, hmem⟩ := h
  refine ⟨halive, ?_⟩
  have hsub (hmem' : .reply x.client.requestRef answer ∈ e.transit ++ e.mailbox) :
      .reply x.client.requestRef answer ∈ x.transit ++ x.mailbox := by
    cases hst with
    | monitor _ _ =>
        cases owner <;> simpa [Process.exchange] using hmem'
    | downReason _ hreceive =>
        exact ((List.Sublist.refl x.transit).append
          (Mailbox.receive_sublist hreceive)).mem hmem'
    | receive _ hreceive =>
        exact ((List.Sublist.refl x.transit).append
          (Mailbox.receive_sublist hreceive)).mem hmem'
    | @act action _ _ _ =>
        cases action with
        | demonitor =>
            exact ((List.Sublist.refl x.transit).append List.filter_sublist).mem hmem'
        | _ => exact hmem'
    | deliver htransit _ =>
        have htransit' : x.transit = _ := htransit
        rw [htransit']
        simpa [Process.exchange, or_assoc, or_comm, or_left_comm] using hmem'
    | discard htransit _ =>
        have htransit' : x.transit = _ := htransit
        rw [htransit']
        exact List.mem_cons_of_mem _ hmem'
    | disturb => simpa [Process.exchange] using hmem'
    | owner _ _ _ _ => cases hown
    | kill _ _ => cases hown
    | _ => exact hmem'
  exact hsub hmem

theorem Client.remote_ok {c : Client} {lease : Lease} : c.remote ≠ .ok lease := by
  unfold Client.remote
  split <;> simp

theorem Client.ownerDown_ok {c : Client} {reason : DownReason} {lease : Lease} :
    c.ownerDown reason ≠ .ok lease := by
  unfold Client.ownerDown
  split <;> simp

/-- What the process holds after a step of its side, it has held before. -/
theorem Process.Scripted.holds_own (hscripted : x.Scripted) (halive : x.alive = true)
    (hown : act.own = true) (hst : Exchange.Step x.client (x.exchange owner) act e)
    {token holder : Ref} (h : (x.after e).Holds token holder) : x.Holds token holder := by
  have hears {answer : Reply} (hhears : (x.after e).Hears answer) : x.Hears answer :=
    hst.hears hown hhears
  -- A step to a place of the call that comes from the same one, or that returns no lease.
  have keeps (hnext : ∀ result, x.phase.next? = some (.returns result) →
        (x.after e).phase.next? = some (.returns result))
      (hreturns : ∀ lease, (x.after e).phase.next? = some (.returns (.ok lease)) →
        x.phase.next? = some (.returns (.ok lease))) : x.Holds token holder := by
    cases h with
    | issued hawaits hhears =>
        exact .issued (fun result hresult => hawaits result (hnext result hresult)) (hears hhears)
    | retained hcall hawaits hhears =>
        exact .retained hcall (fun result hresult => hawaits result (hnext result hresult))
          (hears hhears)
    | returned hnext' _ => exact .returned (hreturns _ hnext') (.inl halive)
  have same (hnext : (x.after e).phase.next? = x.phase.next?) : x.Holds token holder :=
    keeps (fun _ hresult => hnext.trans hresult) fun _ hresult => hnext.symm.trans hresult
  cases hst with
  | remote hphase _ =>
      have hphase' : x.phase = .idle := hphase
      refine keeps (by simp [hphase', Phase.next?]) fun lease hresult => ?_
      cases hremote : x.client.remote with
      | ok lease' => exact absurd hremote Client.remote_ok
      | _ => simp [Process.after, Phase.next?, hremote] at hresult
  | monitor hphase _ =>
      have hphase' : x.phase = .idle := hphase
      exact same (by simp [Process.after, hphase', Phase.next?])
  | alive hphase _ =>
      have hphase' : x.phase = .monitored := hphase
      refine keeps (by simp [hphase', Phase.next?]) fun lease hresult => ?_
      simp [Process.after, Phase.next?] at hresult
  | notAlive hphase _ =>
      have hphase' : x.phase = .monitored := hphase
      exact same (by simp [Process.after, hphase', Phase.next?])
  | downReason hphase _ =>
      have hphase' : x.phase = .refused := hphase
      refine keeps (by simp [hphase', Phase.next?]) fun lease hresult => ?_
      exact absurd (Next.returns.inj (Option.some.inj hresult)) Client.ownerDown_ok
  | noReason hphase _ =>
      have hphase' : x.phase = .refused := hphase
      refine keeps (by simp [hphase', Phase.next?]) fun lease hresult => ?_
      exact absurd (Next.returns.inj (Option.some.inj hresult)) Client.ownerDown_ok
  | act hphase =>
      have hphase' : x.phase = _ := hphase
      exact same (by simp [Process.after, hphase', Phase.next?])
  | await hphase =>
      have hphase' : x.phase = _ := hphase
      exact same (by simp [Process.after, hphase', Phase.next?])
  | returns hphase =>
      have hphase' : x.phase = _ := hphase
      exact same (by simp [Process.after, hphase', Phase.next?])
  | @receive a clause box hphase hreceive =>
      have hphase' : x.phase = .waiting a := hphase
      have hawaits : ∀ result, x.phase.next? ≠ some (.returns result) := by
        simp [hphase', Phase.next?]
      cases h with
      | issued _ hhears => exact .issued hawaits (hears hhears)
      | retained hcall _ hhears => exact .retained hcall hawaits (hears hhears)
      | @returned lease hnext _ =>
          -- The clause returns the lease of the grant that it has received.
          obtain ⟨before, m, after, hbox, -, hclause, -⟩ := Mailbox.receive_some hreceive
          have hmem : m ∈ x.transit ++ x.mailbox := by
            refine List.mem_append_right _ ?_
            rw [show x.mailbox = before ++ m :: after from hbox]
            simp
          rcases Await.clauses_ok hclause (Option.some.inj hnext) with
            ⟨-, hseen⟩ | ⟨parent, child, valid, guard, rfl, hseen, htoken, hholder⟩
          · have hm := Arrival.seen_reply hseen
            subst hm
            exact .issued hawaits ⟨halive, hmem⟩
          · have hm := Arrival.seen_reply hseen
            subst hm
            rw [htoken, hholder]
            have hcall := (hscripted.course _ (by rw [hphase']; rfl)).retaining
            exact .retained hcall hawaits ⟨halive, hmem⟩
  | @expire a hphase _ =>
      have hphase' : x.phase = .waiting a := hphase
      refine keeps (by simp [hphase', Phase.next?]) fun lease hresult => ?_
      cases a <;> simp [Process.after, Phase.next?, Await.after, Await.cancel] at hresult
  | deliver _ _ => exact same rfl
  | discard _ _ => exact same rfl
  | disturb => exact same rfl
  | owner _ _ _ _ => cases hown
  | kill _ _ => cases hown

/-- The reservation that the process can commit after a step of its side, it could commit
before. -/
theorem Process.Scripted.claims_own (hscripted : x.Scripted) (halive : x.alive = true)
    (hown : act.own = true) (hst : Exchange.Step x.client (x.exchange owner) act e)
    {reservation : Ref} (h : (x.after e).Claims reservation) : x.Claims reservation := by
  have hears {answer : Reply} (hhears : (x.after e).Hears answer) : x.Hears answer :=
    hst.hears hown hhears
  have keeps (hscript : ∀ message ∈ x.script, message ∈ (x.after e).script)
      (hnext : ∀ result, x.phase.next? = some (.returns result) →
        (x.after e).phase.next? = some (.returns result))
      (hspoken : ∀ message, message.commits = true → (x.after e).Says message → x.Says message) :
      x.Claims reservation := by
    cases h with
    | granted hsilent hawaits hhears =>
        exact .granted (fun message hmem => hsilent message (hscript message hmem))
          (fun result hresult => hawaits result (hnext result hresult)) (hears hhears)
    | said hsaid => exact .said (hspoken _ rfl hsaid)
  -- A step that sends nothing and comes to nothing new.
  have quiet (hinbox : e.inbox = x.inbox) (htodo : sends e.phase.todo = sends x.phase.todo)
      (hnext : ∀ result, x.phase.next? = some (.returns result) →
        e.phase.next? = some (.returns result)) : x.Claims reservation := by
    refine keeps (fun message hmem => ?_) hnext fun message _ hsaid => ?_
    · simpa [Process.script, Process.after, hinbox, htodo] using hmem
    · simpa [Process.Says, Process.after, hinbox, htodo] using hsaid
  cases hst with
  | remote hphase _ =>
      have hphase' : x.phase = .idle := hphase
      exact quiet rfl (by simp [hphase', Phase.todo]) (by simp [hphase', Phase.next?])
  | monitor hphase _ =>
      have hphase' : x.phase = .idle := hphase
      exact quiet rfl (by simp [hphase', Phase.todo]) (by simp [hphase', Phase.next?])
  | alive hphase _ =>
      have hphase' : x.phase = .monitored := hphase
      refine keeps (fun message hmem => ?_)
        (by simp [hphase', Phase.next?]) fun message hc hsaid => ?_
      · have hnil : x.script = [] := hscripted.silent (by rw [hphase']; rfl)
        rw [hnil] at hmem
        cases hmem
      · rcases hsaid with hinbox | ⟨-, htodo⟩
        · exact .inl hinbox
        · simp only [Process.after, Phase.todo, sends_openAlias, sends_send, sends_nil,
            List.mem_singleton] at htodo
          rw [htodo, Client.request_commits] at hc
          cases hc
  | notAlive hphase _ =>
      have hphase' : x.phase = .monitored := hphase
      exact quiet rfl (by simp [hphase', Phase.todo]) (by simp [hphase', Phase.next?])
  | downReason hphase _ =>
      have hphase' : x.phase = .refused := hphase
      exact quiet rfl (by simp [hphase', Phase.todo]) (by simp [hphase', Phase.next?])
  | noReason hphase _ =>
      have hphase' : x.phase = .refused := hphase
      exact quiet rfl (by simp [hphase', Phase.todo]) (by simp [hphase', Phase.next?])
  | @act action todo next hphase =>
      have hphase' : x.phase = .running (action :: todo) next := hphase
      cases action with
      | send message =>
          refine keeps (fun m hmem => ?_) (by simp [hphase', Phase.next?, Process.after])
            fun m _ hsaid => ?_
          · simpa [Process.script, Process.after, Exchange.perform, Process.exchange, Phase.todo,
              hphase'] using hmem
          · rcases hsaid with hinbox | ⟨-, htodo⟩
            · rcases List.mem_append.mp hinbox with hinbox | hnew
              · exact .inl hinbox
              · rw [List.mem_singleton.mp hnew]
                exact .inr ⟨halive, by simp [hphase', Phase.todo]⟩
            · refine .inr ⟨halive, ?_⟩
              rw [hphase']
              exact List.mem_cons_of_mem _ htodo
      | _ => exact quiet rfl (by simp [hphase', Phase.todo]) (by simp [hphase', Phase.next?])
  | await hphase =>
      have hphase' : x.phase = _ := hphase
      exact quiet rfl (by simp [hphase', Phase.todo]) (by simp [hphase', Phase.next?])
  | returns hphase =>
      have hphase' : x.phase = _ := hphase
      exact quiet rfl (by simp [hphase', Phase.todo]) (by simp [hphase', Phase.next?])
  | @receive a clause box hphase hreceive =>
      have hphase' : x.phase = .waiting a := hphase
      obtain ⟨before, m, after, hbox, -, hclause, -⟩ := Mailbox.receive_some hreceive
      cases hnext : clause.next with
      | returns result =>
          refine keeps (fun message hmem => ?_) (by simp [hphase', Phase.next?])
            fun message hc hsaid => ?_
          · simp only [Process.script, hphase', Phase.todo, sends_nil, List.append_nil] at hmem
            exact List.mem_append_left _ hmem
          rcases hsaid with hinbox | ⟨-, htodo⟩
          · exact .inl hinbox
          · rw [Await.clauses_returns hclause hnext message htodo] at hc
            cases hc
      | await b =>
          -- The clause commits the reservation that was granted.
          obtain ⟨backendToken, v, rfl, rfl, hseen, hactions⟩ := Await.clauses_await hclause hnext
          have htodo : sends clause.actions =
              [.commitIssue v backendToken x.client.self x.client.requestRef] := by
            rw [hactions]
            rfl
          have hcourse := hscripted.course _ (by rw [hphase']; rfl)
          have hrequest : x.script = [x.client.request] := by
            rcases hcourse.awaits with ⟨hscript, -⟩ | hsecond
            · exact hscript
            · cases hsecond
          have hgranted : x.Claims v := by
            have hm := Arrival.seen_reply hseen
            subst hm
            refine .granted (fun message hmem => ?_) (by simp [hphase', Phase.next?])
              ⟨halive, List.mem_append_right _ ?_⟩
            · rw [hrequest] at hmem
              rw [List.mem_singleton.mp hmem, Client.request_commits]
            · rw [show x.mailbox = before ++ _ :: after from hbox]
              simp
          cases h with
          | granted hsilent _ _ =>
              have hcommit :=
                hsilent (.commitIssue v backendToken x.client.self x.client.requestRef)
                (List.mem_append_right _ (htodo ▸ List.mem_singleton_self _))
              cases hcommit
          | said hsaid =>
              rcases hsaid with hinbox | ⟨-, hsend⟩
              · exact .said (.inl hinbox)
              · have hsend' := htodo ▸ (show _ ∈ sends clause.actions from hsend)
                simp only [List.mem_singleton, Message.commitIssue.injEq] at hsend'
                rw [hsend'.1]
                exact hgranted
  | @expire a hphase _ =>
      have hphase' : x.phase = .waiting a := hphase
      refine keeps (fun message hmem => ?_)
        (by simp [hphase', Phase.next?]) fun message hc hsaid => ?_
      · simp only [Process.script, hphase', Phase.todo, sends_nil, List.append_nil] at hmem
        exact List.mem_append_left _ hmem
      · rcases hsaid with hinbox | ⟨-, htodo⟩
        · exact .inl hinbox
        · cases a <;>
            · simp only [Process.after, Phase.todo, Await.after, Await.cancel, sends_unalias,
                sends_send, sends_demonitor, sends_nil, List.mem_singleton] at htodo
              rw [htodo] at hc
              cases hc
  | deliver _ _ => exact quiet rfl rfl fun _ => id
  | discard _ _ => exact quiet rfl rfl fun _ => id
  | disturb => exact quiet rfl rfl fun _ => id
  | owner _ _ _ _ => cases hown
  | kill _ _ => cases hown

end

/-! ## Events, as one process sees them -/

/-- What an event is to a process, and the process after it. -/
inductive Process.Handles (x : Process) (i : Input) (sent : List Signal) : Process → Prop where
  | own {message rest} (hinbox : x.inbox = message :: rest) (hevent : i.event = .info message) :
      Handles x i sent (x.serve i.env sent)
  | mourned {monitorRef} (hdead : x.alive = false) (hinbox : x.inbox = [])
      (hwatch : x.watch = some monitorRef) (hevent : Fired i.event monitorRef) :
      Handles x i sent x.mourn
  | foreign (hforeign : i.event.Foreign x) : Handles x i sent x

/-- What the owner keeps of a process's call, at the place the call has come to. -/
structure Process.Footing (o : Owner) (x : Process) : Prop where
  /-- It is not monitored before its first message is handled. -/
  unwatched : x.handled = [] → x.watch = none
  /-- It has no token before its second message is handled. -/
  uncommitted : x.handled.length ≤ 1 → x.token = none
  /-- Its monitor was made before. -/
  watch_lt : ∀ monitorRef, x.watch = some monitorRef → monitorRef < o.supply
  /-- Its token was made before. -/
  token_lt : ∀ token, x.token = some token → token < o.supply
  /-- Its holder was made before. -/
  child_lt : ∀ childHolder, x.client.childHolder? = some childHolder → childHolder < o.supply
  /-- A reservation of its request is for it, between its first message and its second. -/
  reservation : ∀ r, o.state.custody.reservations.fetch x.client.requestRef = some r →
    (∃ backendToken metadata, x.client.call = .issue backendToken metadata) ∧
      x.handled.length = 1 ∧ x.watch = some r.monitorRef ∧ r.replyTo = x.client.self
  /-- A monitor of its reservation is its own. -/
  watched : ∀ monitorRef,
    o.state.custody.watches.fetch monitorRef = some (.reservation x.client.requestRef) →
      x.watch = some monitorRef
  /-- A pending issue of its request is for it, from its second message on. -/
  issue : ∀ token H monitorRef, o.state.custody.holdings token = some H →
    H.pendingIssue = some (monitorRef, x.client.requestRef) →
      (∃ backendToken metadata, x.client.call = .issue backendToken metadata) ∧
        x.handled.length = 2 ∧ x.watch = some monitorRef ∧ x.token = some token ∧
        o.state.custody.issues.fetch x.client.requestRef = some token
  /-- A pending retain of its holder is for it, from its first message on. -/
  retain : ∀ childHolder, x.client.childHolder? = some childHolder → ∀ token H p,
    o.state.custody.holdings token = some H → H.pendingRetains.fetch childHolder = some p →
      x.handled.length = 1 ∧ x.watch = some p.1 ∧ p.2 = x.client.requestRef ∧
        ∃ lease valid, x.client.call = .retain lease childHolder valid ∧ token = lease.token
  /-- No holder that a retain makes is the root of a lease. -/
  root : ∀ childHolder, x.client.childHolder? = some childHolder → ∀ token H,
    o.state.custody.holdings token = some H → H.rootHolder ≠ some childHolder
  /-- The lease of its commit is pending for it, or it has confirmed it. -/
  token : ∀ token, x.token = some token → ∀ H, o.state.custody.holdings token = some H →
    (∀ p, H.pendingIssue = some p → p.2 = x.client.requestRef) ∧
      (H.pendingIssue = none → .confirmIssue token x.client.requestRef ∈ x.handled)
  /-- Once its death is handled nothing of it is left. -/
  mourned : x.mourned = true → x.alive = false ∧ x.inbox = [] ∧
    ∀ monitorRef, x.watch = some monitorRef → o.state.custody.watches.fetch monitorRef = none

/-- The owner handles an event and lives on, as a process sees it. -/
structure Process.Turn (o : Owner) (i : Input) (o' : Owner) (x y : Process) : Prop where
  /-- The owner is in a state it can reach. -/
  reachable : Owner.Reachable o
  /-- It handles the event. -/
  step : Owner.Step o i o'
  /-- The process keeps to its script. -/
  scripted : x.Scripted
  /-- The owner keeps what the call has come to. -/
  footing : x.Footing o
  /-- What it holds is of its own call. -/
  informed : x.Informed
  /-- What the event is to the process. -/
  handles : x.Handles i o'.state.sent y

section

variable {o o' : Owner} {i : Input} {x y : Process}

/-- A foreign event asks for nothing in the name of the process. -/
theorem Event.Foreign.not_asked (h : i.event.Foreign x) :
    ∀ message, i.event = .info message → message.requestRef? ≠ some x.client.requestRef :=
  fun message hevent => (h.message message hevent).request

/-- The first monitor that is made in a callback is among its monitors and grants. -/
theorem findSome_watch (sent : List Signal) :
    sent.findSome? Signal.watch = (sent.filter Signal.binding).findSome? Signal.watch := by
  induction sent with
  | nil => rfl
  | cons signal sent ih =>
      cases signal with
      | monitor replyTo monitorRef => rfl
      | reply replyTo requestRef answer =>
          by_cases hbinding : (Signal.reply replyTo requestRef answer).binding = true
          · rw [List.filter_cons_of_pos hbinding]
            exact ih
          · rw [List.filter_cons_of_neg hbinding]
            exact ih
      | _ => exact ih

namespace Process.Turn

variable (h : Turn o i o' x y)

include h

theorem sound : o.state.custody.Sound := h.reachable.choose_spec.watched.sound

theorem sound' : o'.state.custody.Sound := (h.reachable.step h.step).choose_spec.watched.sound

theorem change : Custody.Change i.env i.event o.state.custody
    (o'.state.sent.filter Signal.binding) o'.state.custody := by
  obtain ⟨visits, hrun⟩ := h.reachable
  obtain ⟨signals, hchange, rfl⟩ := h.step.change hrun hrun.watched
  exact hchange

/-- The monitor that fires is gone. -/
theorem fired {monitorRef : Ref} (hevent : Fired i.event monitorRef) :
    o'.state.custody.watches.fetch monitorRef = none :=
  h.step.fired h.reachable.choose_spec hevent

theorem unwatched : o.state.custody.watches.fetch i.env.monitorRef = none :=
  h.reachable.choose_spec.watched.fresh h.step

theorem live {message : Message} (hevent : i.event = .info message) :
    (handleInfo i.env message { o.state with sent := [] }).live? = some o'.state := by
  have hlive := h.step.live
  rw [outcome, hevent] at hlive
  exact hlive

theorem client : y.client = x.client := by
  cases h.handles <;> rfl

theorem keeps_watch {monitorRef : Ref} (hwatch : x.watch = some monitorRef) :
    y.watch = some monitorRef := by
  cases h.handles with
  | own _ _ => simp [serve, hwatch]
  | mourned _ _ _ _ => exact hwatch
  | foreign _ => exact hwatch

/-- A new reservation or retain of the process has its monitor. -/
theorem new_watch {target : MonitorTarget}
    (hwatch : o'.state.custody.watches.fetch i.env.monitorRef = some target)
    (hown : ¬i.event.Foreign x) (hevent : ∀ monitorRef, ¬Fired i.event monitorRef)
    (hhandled : x.handled = []) : y.watch = some i.env.monitorRef := by
  rcases h.change.origin hwatch with hold | ⟨-, hfirst, -⟩ |
    ⟨_, _, _, _, r, hcommit, hr, hmonitor, -⟩
  · rw [h.unwatched] at hold
    cases hold
  · cases h.handles with
    | own _ _ => simp [serve, h.footing.unwatched hhandled, findSome_watch, hfirst]
    | mourned _ _ _ hfired => exact absurd hfired (hevent _)
    | foreign hforeign => exact absurd hforeign hown
  · have hold := h.sound.reservation _ r hr
    rw [← hmonitor, h.unwatched] at hold
    cases hold

/-- A reservation of the process after the event. -/
theorem reservation {r : Reservation}
    (hr : o'.state.custody.reservations.fetch x.client.requestRef = some r) :
    (∃ backendToken metadata, x.client.call = .issue backendToken metadata) ∧
      y.handled.length = 1 ∧ y.watch = some r.monitorRef ∧ r.replyTo = x.client.self := by
  have hwatches := h.sound'.reservation _ r hr
  rcases h.change.reservation hr with hold | ⟨metadata, replyTo, hevent, hmonitor, -, hreply⟩
  · obtain ⟨hissue, hone, hwatch, hreply⟩ := h.footing.reservation r hold
    cases h.handles with
    | own hinbox hevent =>
        -- Its second message consumes the reservation or gives it up.
        have hlive := h.live hevent
        rcases (h.scripted.head hinbox).issue_second hissue hone with ⟨_, _, rfl⟩ | rfl
        · rw [show o'.state.custody.reservations = o'.state.issueReservations from rfl,
            handleInfo_commit hlive] at hr
          cases hr
        · rw [show o'.state.custody.reservations = o'.state.issueReservations from rfl,
            handleInfo_cancelReservation hlive] at hr
          cases hr
    | mourned _ _ hmourned hfired =>
        rw [hwatch] at hmourned
        cases hmourned
        rw [h.fired hfired] at hwatches
        cases hwatches
    | foreign _ => exact ⟨hissue, hone, hwatch, hreply⟩
  · have hown : ¬i.event.Foreign x := fun hforeign => hforeign.not_asked _ hevent rfl
    rw [hmonitor] at hwatches
    have hnew := h.new_watch hwatches hown (by rw [hevent]; rintro m ⟨reason, heq⟩; cases heq)
    cases h.handles with
    | own hinbox hevent' =>
        rw [hevent] at hevent'
        cases hevent'
        cases h.scripted.head hinbox with
        | reserveIssue hcall hhandled =>
            refine ⟨⟨_, _, hcall⟩, by simp [serve, hinbox, hhandled], ?_, hreply⟩
            rw [hmonitor]
            exact hnew hhandled
    | mourned _ _ _ hfired =>
        obtain ⟨reason, heq⟩ := hfired
        rw [hevent] at heq
        cases heq
    | foreign hforeign => exact absurd hforeign hown

/-- The monitor of a reservation of the process after the event. -/
theorem watched {monitorRef : Ref}
    (hwatch : o'.state.custody.watches.fetch monitorRef = some (.reservation x.client.requestRef)) :
    y.watch = some monitorRef := by
  rcases h.change.origin hwatch with hold | ⟨rfl, -, hmade | hmade⟩ | ⟨_, _, _, _, _, -, -, -, heq⟩
  · exact h.keeps_watch (h.footing.watched monitorRef hold)
  · obtain ⟨_, _, _, hevent, heq⟩ := hmade
    cases heq
    have hown : ¬i.event.Foreign x := fun hforeign => hforeign.not_asked _ hevent rfl
    refine h.new_watch hwatch hown (by rw [hevent]; rintro m ⟨reason, heq⟩; cases heq) ?_
    cases h.handles with
    | own hinbox hevent' =>
        rw [hevent] at hevent'
        cases hevent'
        cases h.scripted.head hinbox with
        | reserveIssue _ hhandled => exact hhandled
    | mourned _ _ _ hfired =>
        obtain ⟨reason, heq⟩ := hfired
        rw [hevent] at heq
        cases heq
    | foreign hforeign => exact absurd hforeign hown
  · obtain ⟨_, _, _, _, _, -, heq⟩ := hmade
    cases heq
  · cases heq

/-- A pending issue of the process after the event. -/
theorem issue {token monitorRef : Ref} {H' : Holding}
    (hH' : o'.state.custody.holdings token = some H')
    (hpending : H'.pendingIssue = some (monitorRef, x.client.requestRef)) :
    (∃ backendToken metadata, x.client.call = .issue backendToken metadata) ∧
      y.handled.length = 2 ∧ y.watch = some monitorRef ∧ y.token = some token ∧
      o'.state.custody.issues.fetch x.client.requestRef = some token := by
  have hwatches := (h.sound'.issue monitorRef token x.client.requestRef).mpr ⟨H', hH', hpending⟩
  rcases h.change.holding hH' with ⟨H, hH, hnext⟩ | ⟨rfl, hissued⟩
  · have hold : H.pendingIssue = some (monitorRef, x.client.requestRef) := by
      rcases hnext.issue with hsame | ⟨_, _, -, -, hnone⟩
      · rw [← hsame]
        exact hpending
      · rw [hnone] at hpending
        cases hpending
    obtain ⟨hissue, htwo, hwatch, htoken, hindex⟩ := h.footing.issue token H monitorRef hH hold
    -- Only its own lease is pending for the request, and that one is still there.
    have hstays (hconfirm : ∀ t, i.event ≠ .info (.confirmIssue t x.client.requestRef))
        (hcommit : ∀ reservation backendToken replyTo,
          i.event ≠ .info (.commitIssue reservation backendToken replyTo x.client.requestRef)) :
        o'.state.custody.issues.fetch x.client.requestRef = some token := by
      rcases h.change.keeps_issue hindex hcommit with hsame | ⟨t, hevent⟩ | ⟨t, K, m, hK, hp, hnone⟩
      · exact hsame
      · exact absurd hevent (hconfirm t)
      · obtain ⟨-, -, -, htoken', -⟩ := h.footing.issue t K m hK hp
        rw [htoken] at htoken'
        cases htoken'
        rw [hH'] at hnone
        cases hnone
    cases h.handles with
    | own hinbox hevent =>
        have hlive := h.live hevent
        rcases (h.scripted.head hinbox).issue_third hissue htwo with
          ⟨lease, rfl, hreturns, hsent⟩ | rfl
        · obtain ⟨-, ⟨_, _, -, htoken'⟩ | ⟨_, _, hcall, -⟩⟩ :=
            h.informed _ _ (.returned hreturns (.inr hsent))
          · rw [htoken] at htoken'
            cases htoken'
            exact absurd hpending (handleInfo_confirmIssue hlive hH')
          · obtain ⟨_, _, hissue⟩ := hissue
            rw [hissue] at hcall
            cases hcall
        · rw [handleInfo_cancelIssue (s := { o.state with sent := [] }) h.sound hindex hlive] at hH'
          cases hH'
    | mourned _ _ hmourned hfired =>
        rw [hwatch] at hmourned
        cases hmourned
        rw [h.fired hfired] at hwatches
        cases hwatches
    | foreign hforeign =>
        refine ⟨hissue, htwo, hwatch, htoken, hstays (fun t hevent => ?_) fun _ _ _ hevent => ?_⟩
        · exact hforeign.not_asked _ hevent rfl
        · exact hforeign.not_asked _ hevent rfl
  · obtain ⟨reservation, backendToken, replyTo, requestRef, r, hevent, hr, heq, hindex⟩ :=
      hissued.commit
    rw [hpending] at heq
    cases heq
    obtain ⟨hissue, hone, hwatch, -⟩ := h.footing.reservation r hr
    cases h.handles with
    | own hinbox hevent' =>
        rw [hevent] at hevent'
        cases hevent'
        refine ⟨hissue, by simp [serve, hinbox, hone], by simp [serve, hwatch],
          by simp [serve, hinbox, Message.commits], hindex⟩
    | mourned _ _ _ hfired =>
        obtain ⟨reason, heq⟩ := hfired
        rw [hevent] at heq
        cases heq
    | foreign hforeign => exact absurd rfl (hforeign.not_asked _ hevent)

/-- The pending retain of the process after the event. -/
theorem retain {childHolder token : Ref} {H' : Holding} {p : Ref × Ref}
    (hchild : x.client.childHolder? = some childHolder)
    (hH' : o'.state.custody.holdings token = some H')
    (hpending : H'.pendingRetains.fetch childHolder = some p) :
    y.handled.length = 1 ∧ y.watch = some p.1 ∧ p.2 = x.client.requestRef ∧
      ∃ lease valid, x.client.call = .retain lease childHolder valid ∧ token = lease.token := by
  have hwatches := (h.sound'.retain p.1 token childHolder).mpr ⟨H', p.2, hH', hpending⟩
  rcases h.change.holding hH' with ⟨H, hH, hnext⟩ | ⟨-, hissued⟩
  · rcases hnext.retains childHolder p hpending with hold | ⟨parent, replyTo, q, hevent, rfl, -⟩
    · obtain ⟨hone, hwatch, hrequest, lease, valid, hcall, rfl⟩ :=
        h.footing.retain childHolder hchild token H p hH hold
      cases h.handles with
      | own hinbox hevent =>
          have hlive := h.live hevent
          rcases (h.scripted.head hinbox).retain_second hcall hone with rfl | rfl
          · rw [show p = (p.1, x.client.requestRef) by rw [← hrequest]] at hpending
            exact absurd hpending (handleInfo_confirmRetain hlive hH')
          · have hroot : ∀ K, o.state.custody.holdings lease.token = some K →
                K.rootHolder ≠ some childHolder := h.footing.root childHolder hchild lease.token
            rw [handleInfo_cancelRetain (s := { o.state with sent := [] }) h.sound hroot hlive hH']
              at hpending
            cases hpending
      | mourned _ _ hmourned hfired =>
          rw [hwatch] at hmourned
          cases hmourned
          rw [h.fired hfired] at hwatches
          cases hwatches
      | foreign _ => exact ⟨hone, hwatch, hrequest, lease, valid, hcall, rfl⟩
    · have hown : ¬i.event.Foreign x := fun hforeign =>
        (hforeign.message _ hevent).child childHolder hchild rfl
      have hnew := h.new_watch hwatches hown (by rw [hevent]; rintro m ⟨reason, heq⟩; cases heq)
      cases h.handles with
      | own hinbox hevent' =>
          rw [hevent] at hevent'
          cases hevent'
          cases h.scripted.head hinbox with
          | retain hcall hhandled =>
              exact ⟨by simp [serve, hinbox, hhandled], hnew hhandled, rfl, _, _, hcall, rfl⟩
      | mourned _ _ _ hfired =>
          obtain ⟨reason, heq⟩ := hfired
          rw [hevent] at heq
          cases heq
      | foreign hforeign => exact absurd hforeign hown
  · rw [hissued.retains] at hpending
    cases hpending

theorem unheld : o.state.custody.holdings i.env.token = none :=
  h.reachable.choose_spec.sound.unheld h.step

theorem handled_mono {message : Message} (hmem : message ∈ x.handled) : message ∈ y.handled := by
  cases h.handles with
  | own _ _ => exact List.mem_append_left _ hmem
  | mourned _ _ _ _ => exact hmem
  | foreign _ => exact hmem

/-- The token of an older lease is not the one of a commit in this event. -/
theorem old_token {token : Ref} {H : Holding} (hH : o.state.custody.holdings token = some H)
    (htoken : y.token = some token) : x.token = some token := by
  cases h.handles with
  | own _ _ =>
      simp only [serve] at htoken
      split at htoken
      · cases htoken
        rw [h.unheld] at hH
        cases hH
      · exact htoken
  | mourned _ _ _ _ => exact htoken
  | foreign _ => exact htoken

/-- The lease of the process's commit after the event. -/
theorem token {token : Ref} {H' : Holding} (htoken : y.token = some token)
    (hH' : o'.state.custody.holdings token = some H') :
    (∀ p, H'.pendingIssue = some p → p.2 = x.client.requestRef) ∧
      (H'.pendingIssue = none → .confirmIssue token x.client.requestRef ∈ y.handled) := by
  rcases h.change.holding hH' with ⟨H, hH, hnext⟩ | ⟨rfl, hissued⟩
  · obtain ⟨hown, hconfirmed⟩ := h.footing.token token (h.old_token hH htoken) H hH
    rcases hnext.issue with hsame | ⟨m, q, hevent, hold, hnone⟩
    · rw [hsame]
      exact ⟨hown, fun hnone => h.handled_mono (hconfirmed hnone)⟩
    · obtain rfl : q = x.client.requestRef := hown _ hold
      refine ⟨by simp [hnone], fun _ => ?_⟩
      cases h.handles with
      | own hinbox hevent' =>
          rw [hevent] at hevent'
          cases hevent'
          simp [serve, hinbox]
      | mourned _ _ _ hfired =>
          obtain ⟨reason, heq⟩ := hfired
          rw [hevent] at heq
          cases heq
      | foreign hforeign => exact absurd rfl (hforeign.not_asked _ hevent)
  · obtain ⟨_, _, _, q, r, hevent, -, hpending, -⟩ := hissued.commit
    have hold (hx : x.token = some i.env.token) : False :=
      Nat.not_lt.mpr (h.step.made (k := 2) (by omega)).1 (h.footing.token_lt _ hx)
    cases h.handles with
    | own hinbox hevent' =>
        rw [hevent] at hevent'
        cases hevent'
        cases h.scripted.head hinbox with
        | commitIssue _ _ =>
            simp [hpending]
    | mourned _ _ _ _ => exact (hold htoken).elim
    | foreign _ => exact (hold htoken).elim

theorem watch_lt {monitorRef : Ref} (hwatch : y.watch = some monitorRef) :
    monitorRef < o'.supply := by
  have hold {m : Ref} (hx : x.watch = some m) : m < o'.supply :=
    Nat.lt_of_lt_of_le (h.footing.watch_lt m hx) h.step.supply_le
  cases h.handles with
  | own _ _ =>
      cases hx : x.watch with
      | some m =>
          rw [h.keeps_watch hx] at hwatch
          cases hwatch
          exact hold hx
      | none =>
          have hfirst :
            (x.watch <|> o'.state.sent.findSome? Signal.watch) = some monitorRef := hwatch
          rw [hx, findSome_watch] at hfirst
          rw [h.change.made hfirst]
          exact (h.step.made (k := 1) (by omega)).2
  | mourned _ _ _ _ => exact hold hwatch
  | foreign _ => exact hold hwatch

theorem token_lt {token : Ref} (htoken : y.token = some token) : token < o'.supply := by
  have hold (hx : x.token = some token) : token < o'.supply :=
    Nat.lt_of_lt_of_le (h.footing.token_lt _ hx) h.step.supply_le
  cases h.handles with
  | own _ _ =>
      simp only [serve] at htoken
      split at htoken
      · cases htoken
        exact (h.step.made (k := 2) (by omega)).2
      · exact hold htoken
  | mourned _ _ _ _ => exact hold htoken
  | foreign _ => exact hold htoken

theorem unwatched' (hhandled : y.handled = []) : y.watch = none := by
  cases h.handles with
  | own hinbox _ => simp [serve, hinbox] at hhandled
  | mourned _ _ _ _ => exact h.footing.unwatched hhandled
  | foreign _ => exact h.footing.unwatched hhandled

theorem uncommitted (hhandled : y.handled.length ≤ 1) : y.token = none := by
  cases h.handles with
  | @own message rest hinbox _ =>
      have hnil : x.handled = [] := by
        simp only [serve, hinbox, List.head?_cons, Option.toList_some, List.length_append,
          List.length_singleton] at hhandled
        exact List.length_eq_zero_iff.mp (by omega)
      have hcommits : message.commits = false := by
        cases h.scripted.head hinbox with
        | commitIssue _ hone => simp [hnil] at hone
        | _ => rfl
      simp [serve, hinbox, hcommits, h.footing.uncommitted (by simp [hnil])]
  | mourned _ _ _ _ => exact h.footing.uncommitted hhandled
  | foreign _ => exact h.footing.uncommitted hhandled

theorem root {childHolder token : Ref} {H' : Holding}
    (hchild : x.client.childHolder? = some childHolder)
    (hH' : o'.state.custody.holdings token = some H') : H'.rootHolder ≠ some childHolder := by
  rcases h.change.holding hH' with ⟨H, hH, hnext⟩ | ⟨-, hissued⟩
  · rw [hnext.root]
    exact h.footing.root childHolder hchild token H hH
  · rw [hissued.root]
    rintro ⟨⟩
    exact Nat.not_lt.mpr (h.step.made (k := 3) (by omega)).1 (h.footing.child_lt _ hchild)

/-- No monitor is used again. -/
theorem stays_unwatched {monitorRef : Ref} (hwatch : x.watch = some monitorRef)
    (hnone : o.state.custody.watches.fetch monitorRef = none) :
    o'.state.custody.watches.fetch monitorRef = none := by
  refine Option.eq_none_iff_forall_ne_some.mpr fun target htarget => ?_
  rcases h.change.origin htarget with hold | ⟨rfl, -⟩ | ⟨_, _, _, _, r, -, hr, rfl, -⟩
  · rw [hnone] at hold
    cases hold
  · exact Nat.not_lt.mpr (h.step.made (k := 1) (by omega)).1 (h.footing.watch_lt _ hwatch)
  · rw [h.sound.reservation _ r hr] at hnone
    cases hnone

theorem mourned (hmourned : y.mourned = true) : y.alive = false ∧ y.inbox = [] ∧
    ∀ monitorRef, y.watch = some monitorRef →
      o'.state.custody.watches.fetch monitorRef = none := by
  cases h.handles with
  | own hinbox _ =>
      have hnil := (h.footing.mourned hmourned).2.1
      rw [hinbox] at hnil
      cases hnil
  | mourned hdead hinbox hwatch hfired =>
      refine ⟨hdead, hinbox, fun m hm => h.fired ?_⟩
      have heq : m = _ := Option.some.inj (hm.symm.trans hwatch)
      exact heq ▸ hfired
  | foreign _ =>
      obtain ⟨hdead, hinbox, hnone⟩ := h.footing.mourned hmourned
      exact ⟨hdead, hinbox, fun m hm => h.stays_unwatched hm (hnone m hm)⟩

/-- **What the owner keeps of the process after the event.** -/
theorem next : y.Footing o' where
  unwatched := h.unwatched'
  uncommitted := h.uncommitted
  watch_lt _ := h.watch_lt
  token_lt _ := h.token_lt
  child_lt child hchild := by
    rw [h.client] at hchild
    exact Nat.lt_of_lt_of_le (h.footing.child_lt child hchild) h.step.supply_le
  reservation r hr := by
    rw [h.client] at hr ⊢
    exact h.reservation hr
  watched m hm := by
    rw [h.client] at hm
    exact h.watched hm
  issue token H m hH hpending := by
    rw [h.client] at hpending ⊢
    exact h.issue hH hpending
  retain child hchild token H p hH hpending := by
    rw [h.client] at hchild ⊢
    exact h.retain hchild hH hpending
  root child hchild token H hH := by
    rw [h.client] at hchild
    exact h.root hchild hH
  token token htoken H hH := by
    rw [h.client]
    exact h.token htoken hH
  mourned := h.mourned

end Process.Turn

end

end VideoInterop.LeaseOwner
