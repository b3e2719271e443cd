import VideoInterop.LeaseOwner.Residue
import VideoInterop.LeaseOwner.Standing

/-!
# What the owner keeps of every call

The reservation that an issue can commit is there until it commits it, whatever the other
processes do; the tag of its result says who has the token, and what it gave up is not
kept.  Each is an invariant of one process, kept by the turns of the owner and by the
steps of the process, and then of the network.
-/

namespace VideoInterop.LeaseOwner

/-- The reservation that the process can commit is there, under its request. -/
def Process.Reserved (o : Owner) (x : Process) : Prop :=
  ∀ reservation, x.Claims reservation →
    ∃ r, o.state.custody.reservations.fetch x.client.requestRef = some r ∧
      r.reservation = reservation

/-! ## Turns -/

section

variable {o o' : Owner} {i : Input} {sent : List Signal} {reason : Term} {x y : Process}

/-- What an event leaves as it is. -/
structure Process.Beside (x y : Process) : Prop where
  /-- It makes the same call. -/
  client : y.client = x.client
  /-- It is alive when the other is. -/
  alive : y.alive = x.alive
  /-- Its call is as far. -/
  phase : y.phase = x.phase
  /-- The same is on its way to it. -/
  transit : y.transit = x.transit
  /-- It has the same mailbox. -/
  mailbox : y.mailbox = x.mailbox
  /-- It has sent the same messages. -/
  script : y.script = x.script
  /-- It has no other message on its way to the owner. -/
  inbox : ∀ message ∈ y.inbox, message ∈ x.inbox

theorem Process.Handles.beside (h : x.Handles i sent y) : x.Beside y := by
  cases h with
  | own hinbox _ =>
      refine ⟨rfl, rfl, rfl, rfl, rfl, by simp [script, serve, hinbox], fun message hmem => ?_⟩
      rw [hinbox]
      simp only [serve, hinbox, List.tail_cons] at hmem
      exact List.mem_cons_of_mem _ hmem
  | mourned _ _ _ _ => exact ⟨rfl, rfl, rfl, rfl, rfl, rfl, fun _ => id⟩
  | foreign _ => exact ⟨rfl, rfl, rfl, rfl, rfl, rfl, fun _ => id⟩

/-- An answer that a process has after a callback is an old one or one of the callback. -/
theorem Process.Beside.hears (h : x.Beside y) {answer : Reply}
    (hhears : (y.hear sent reason (some o')).Hears answer) :
    x.Hears answer ∨ ∃ replyTo, .reply replyTo x.client.requestRef answer ∈ sent := by
  obtain ⟨halive, hmem⟩ := hhears
  have halive' : x.alive = true := h.alive ▸ halive
  simp only [hear, Exchange.obituary, h.client, h.transit, h.mailbox, List.append_nil,
    List.mem_append, List.mem_filterMap] at hmem
  rcases hmem with (hold | ⟨signal, hsignal, harrival⟩) | hold
  · exact .inl ⟨halive', List.mem_append_left _ hold⟩
  · cases signal with
    | reply replyTo requestRef answer' =>
        simp only [Signal.arrival] at harrival
        split at harrival
        · next heq =>
            cases harrival
            exact .inr ⟨replyTo, hsignal⟩
        · cases harrival
    | _ => cases harrival
  · exact .inl ⟨halive', List.mem_append_right _ hold⟩

/-- A process says nothing after a callback that it did not say before. -/
theorem Process.Beside.spoken (h : x.Beside y) {message : Message}
    (hspoken : (y.hear sent reason (some o')).Says message) : x.Says message := by
  rcases hspoken with hinbox | ⟨halive, htodo⟩
  · exact .inl (h.inbox message hinbox)
  · refine .inr ⟨h.alive ▸ halive, ?_⟩
    rw [← h.phase]
    exact htodo

/-- The messages of an issue behind its second are no commits. -/
theorem IssueCourse.commits_once {c : Client} {backendToken metadata : Term}
    {messages : List Message} {next : Next}
    (h : IssueCourse c backendToken metadata messages next) :
    ∀ message ∈ messages.drop 2, message.commits = false := by
  cases h <;> simp [Message.commits]

/-- The messages of an issue that has returned, and its tag. -/
theorem IssueCourse.tagged {c : Client} {backendToken metadata : Term} {messages : List Message}
    {result : Result} (h : IssueCourse c backendToken metadata messages (.returns result)) :
    (∃ reason, result = .callerOwned reason ∧ messages.filter Message.commits = []) ∨
      ∃ reservation, ((∃ lease, result = .ok lease) ∨ ∃ reason, result = .transferred reason) ∧
        messages.filter Message.commits =
          [.commitIssue reservation backendToken c.self c.requestRef] := by
  cases h with
  | unsent => exact .inl ⟨_, rfl, rfl⟩
  | refused => exact .inl ⟨_, rfl, rfl⟩
  | expired => exact .inl ⟨_, rfl, rfl⟩
  | rejected => exact .inr ⟨_, .inr ⟨_, rfl⟩, rfl⟩
  | confirmed => exact .inr ⟨_, .inl ⟨_, rfl⟩, rfl⟩
  | cancelled => exact .inr ⟨_, .inr ⟨_, rfl⟩, rfl⟩

/-- An issue gives up its reservation second. -/
theorem IssueCourse.vacates_second {c : Client} {backendToken metadata : Term}
    {messages : List Message} {next : Next} (h : IssueCourse c backendToken metadata messages next)
    (requestRef : Ref) : .cancelIssueReservation requestRef ∉ messages.take 1 := by
  cases h <;> simp

/-- An issue gives up its lease third, and confirms it then no more. -/
theorem IssueCourse.revokes_third {c : Client} {backendToken metadata : Term}
    {messages : List Message} {next : Next} (h : IssueCourse c backendToken metadata messages next)
    (requestRef : Ref) : .cancelIssue requestRef ∉ messages.take 2 ∧
      (.cancelIssue requestRef ∈ messages → ∀ token requestRef',
        .confirmIssue token requestRef' ∉ messages) := by
  cases h <;> simp

theorem Process.Scripted.issue {backendToken metadata : Term} (h : x.Scripted)
    (hcall : x.client.call = .issue backendToken metadata) (hscript : x.script ≠ []) :
    ∃ next, IssueCourse x.client backendToken metadata x.script next := by
  cases hnext : x.phase.next? with
  | none => exact absurd (h.silent hnext) hscript
  | some next => exact ⟨next, (h.course next hnext).issue hcall⟩

/-- The process can say only what its script holds. -/
theorem Process.Says.script {message : Message} (h : x.Says message) : message ∈ x.script := by
  rcases h with hinbox | ⟨-, htodo⟩
  · exact List.mem_append_left _ (List.mem_append_right _ hinbox)
  · exact List.mem_append_right _ htodo

namespace Process.Turn

variable (h : Turn o i o' x y)

include h

theorem beside : x.Beside y := h.handles.beside

theorem asked_own {message : Message} (hevent : i.event = .info message)
    (hrequest : message.requestRef? = some x.client.requestRef)
    (hfired : ∀ monitorRef, ¬Fired i.event monitorRef) :
    ∃ rest, x.inbox = message :: rest ∧ y = x.serve i.env o'.state.sent := by
  cases h.handles with
  | own hinbox hevent' =>
      rw [hevent] at hevent'
      cases hevent'
      exact ⟨_, hinbox, rfl⟩
  | mourned _ _ _ hmourned => exact absurd hmourned (hfired _)
  | foreign hforeign => exact absurd hrequest (hforeign.not_asked _ hevent)

/-- The token of a commit that is behind the process stays. -/
theorem keeps_token {token : Ref} (htoken : x.token = some token) : y.token = some token := by
  cases h.handles with
  | @own message _ hinbox _ =>
      have hcommits : message.commits = false := by
        cases h.scripted.head hinbox with
        | commitIssue _ hone =>
            rw [h.footing.uncommitted (by omega)] at htoken
            cases htoken
        | _ => rfl
      simp [serve, hinbox, hcommits, htoken]
  | mourned _ _ _ _ => exact htoken
  | foreign _ => exact htoken

theorem keeps_handled (hhandled : x.handled ≠ []) : y.handled ≠ [] := by
  obtain ⟨message, hmem⟩ := List.exists_mem_of_ne_nil _ hhandled
  exact List.ne_nil_of_mem (h.handled_mono hmem)

/-- What the process holds after the event it has held before, or its commit or its retain
has just been granted. -/
theorem holds_hear {token holder : Ref}
    (hholds : (y.hear o'.state.sent reason (some o')).Holds token holder) :
    x.Holds token holder ∨ y.handled ≠ [] ∧
      ((∃ backendToken metadata H, x.client.call = .issue backendToken metadata ∧
          y.token = some token ∧ token = i.env.token ∧ holder = i.env.holder ∧
          o'.state.custody.holdings token = some H) ∨
        ∃ lease valid H, x.client.call = .retain lease holder valid ∧ token = lease.token ∧
          o'.state.custody.holdings token = some H ∧ holder ∈ H.holders) := by
  have hbeside := h.beside
  have hphase {result : Result}
      (hawaits : ∀ result, y.phase.next? ≠ some (.returns result)) :
      x.phase.next? ≠ some (.returns result) := hbeside.phase ▸ hawaits result
  cases hholds with
  | issued hawaits hhears =>
      rcases hbeside.hears hhears with hx | ⟨replyTo, hmem⟩
      · exact .inl (.issued (fun _ => hphase hawaits) hx)
      · rcases h.change.granted (List.mem_filter.mpr ⟨hmem, rfl⟩) with
          ⟨_, _, heq, -⟩ | ⟨_, _, _, hevent, heq, htoken, hholder, H, hH⟩ |
          ⟨_, _, _, _, _, _, heq, -⟩
        · cases heq
        · cases heq
          obtain ⟨rest, hinbox, rfl⟩ := h.asked_own hevent rfl
            (by rw [hevent]; rintro m ⟨reason, heq⟩; cases heq)
          cases h.scripted.head hinbox with
          | commitIssue hcall _ =>
              refine .inr ⟨by simp [serve, hinbox], .inl ⟨_, _, H, hcall, ?_, htoken, hholder, ?_⟩⟩
              · simp [serve, hinbox, Message.commits, htoken]
              · rw [htoken]
                exact hH
        · cases heq
  | @retained lease _ valid _ hcall hawaits hhears =>
      have hcall' : x.client.call = .retain lease holder valid := hbeside.client ▸ hcall
      rcases hbeside.hears hhears with hx | ⟨replyTo, hmem⟩
      · exact .inl (.retained hcall' (fun _ => hphase hawaits) hx)
      · rcases h.change.granted (List.mem_filter.mpr ⟨hmem, rfl⟩) with
          ⟨_, _, heq, -⟩ | ⟨_, _, _, _, heq, -⟩ | ⟨_, _, _, _, H, hevent, heq, hH, hchild⟩
        · cases heq
        · cases heq
        · obtain ⟨rest, hinbox, rfl⟩ := h.asked_own hevent rfl
            (by rw [hevent]; rintro m ⟨reason, heq⟩; cases heq)
          cases h.scripted.head hinbox with
          | retain hcall'' _ =>
              rw [hcall'] at hcall''
              cases hcall''
              exact .inr ⟨by simp [serve, hinbox], .inr ⟨lease, valid, H, hcall', rfl, hH, hchild⟩⟩
  | returned hnext hsent =>
      refine .inl (.returned ?_ ?_)
      · rw [← hbeside.phase]
        exact hnext
      · rw [← hbeside.alive, ← hbeside.phase]
        exact hsent

/-- **What the process holds after the event is of its own call.** -/
theorem informed_hear : (y.hear o'.state.sent reason (some o')).Informed := by
  intro token holder hholds
  have hclient : (y.hear o'.state.sent reason (some o')).client = x.client := h.client
  rw [hclient]
  rcases h.holds_hear hholds with
    hx | ⟨hhandled, ⟨_, _, _, hcall, htoken, -⟩ | ⟨lease, valid, _, hcall, htoken, -⟩⟩
  · obtain ⟨hhandled, ⟨_, _, hcall, htoken⟩ | hretain⟩ := h.informed token holder hx
    · exact ⟨h.keeps_handled hhandled, .inl ⟨_, _, hcall, h.keeps_token htoken⟩⟩
    · exact ⟨h.keeps_handled hhandled, .inr hretain⟩
  · exact ⟨hhandled, .inl ⟨_, _, hcall, htoken⟩⟩
  · exact ⟨hhandled, .inr ⟨lease, valid, hcall, htoken⟩⟩

/-- **The reservation that the process can commit is there after the event.** -/
theorem reserved_hear (hreserved : x.Reserved o) :
    (y.hear o'.state.sent reason (some o')).Reserved o' := by
  have hbeside := h.beside
  intro reservation hclaims
  have hclient : (y.hear o'.state.sent reason (some o')).client = x.client := hbeside.client
  rw [hclient]
  -- A reservation that the process could commit is given up by nobody else.
  have hold (hx : x.Claims reservation) :
      ∃ r, o'.state.custody.reservations.fetch x.client.requestRef = some r ∧
        r.reservation = reservation := by
    obtain ⟨r, hr, hnumber⟩ := hreserved reservation hx
    obtain ⟨⟨backendToken, metadata, hcall⟩, hone, hwatch, -⟩ := h.footing.reservation r hr
    cases h.handles with
    | @own message rest hinbox hevent =>
        exfalso
        -- Nothing that the process says behind its second message is a commit.
        have hsecond : ∀ message ∈ rest ++ sends x.phase.todo, message.commits = false := by
          have hscript := x.script_split hinbox
          obtain ⟨first, hfirst⟩ := List.length_eq_one_iff.mp hone
          have hdrop : x.script.drop 2 = rest ++ sends x.phase.todo := by
            rw [← hscript, hfirst]
            rfl
          cases hnext : x.phase.next? with
          | none =>
              rw [h.scripted.silent hnext] at hscript
              simp at hscript
          | some next =>
              rw [← hdrop]
              exact ((h.scripted.course next hnext).issue hcall).commits_once
        have hmem : message ∈ x.script := by
          rw [← x.script_split hinbox]
          simp
        cases hclaims with
        | granted hsilent hawaits _ =>
            rcases (h.scripted.head hinbox).issue_second ⟨_, _, hcall⟩ hone with
              ⟨_, _, rfl⟩ | hcancel
            · have hcommit := hsilent _ (hbeside.script.symm ▸ hmem)
              cases hcommit
            · cases h.scripted.head hinbox with
              | cancelIssueReservation _ _ hnext => exact hawaits _ hnext
              | _ => cases hcancel
        | said hspoken =>
            have hcommit := hsecond _ (by
              rcases hspoken with hin | ⟨-, htodo⟩
              · simp only [hear, serve, hinbox, List.tail_cons] at hin
                exact List.mem_append_left _ hin
              · exact List.mem_append_right _ htodo)
            cases hcommit
    | mourned hdead hinbox _ _ =>
        exfalso
        cases hx with
        | granted _ _ hhears =>
            rw [hhears.alive] at hdead
            cases hdead
        | said hspoken =>
            rcases hspoken with hin | ⟨halive, -⟩
            · rw [hinbox] at hin
              cases hin
            · rw [halive] at hdead
              cases hdead
    | foreign hforeign =>
        refine ⟨r, h.change.keeps_reservation hr ?_ hforeign.not_asked, hnumber⟩
        rintro (hcancel | ⟨m, hfired, hm⟩)
        · exact hforeign.not_asked _ hcancel rfl
        · exact hforeign.down m (h.footing.watched m hm) hfired
  have hsilent' {messages : Message → Prop}
      (hz : ∀ message ∈ (y.hear o'.state.sent reason (some o')).script, messages message) :
      ∀ message ∈ x.script, messages message := fun message hmem =>
    hz message (hbeside.script.symm ▸ hmem)
  cases hclaims with
  | granted hsilent hawaits hhears =>
      rcases hbeside.hears hhears with hx | ⟨replyTo, hmem⟩
      · refine hold (.granted (hsilent' hsilent) (fun result => ?_) hx)
        rw [← hbeside.phase]
        exact hawaits result
      · rcases h.change.granted (List.mem_filter.mpr ⟨hmem, rfl⟩) with
          ⟨_, _, heq, r, hr, hnumber⟩ | ⟨_, _, _, _, heq, -⟩ | ⟨_, _, _, _, _, _, heq, -⟩
        · cases heq
          exact ⟨r, hr, hnumber⟩
        · cases heq
        · cases heq
  | said hspoken => exact hold (.said (hbeside.spoken hspoken))

end Process.Turn

/-! ## Steps of a process -/

/-- How a process stands with an owner that lives. -/
structure Process.Stands (o : Owner) (x : Process) : Prop where
  /-- The owner keeps what the call has come to. -/
  footing : x.Footing o
  /-- What it holds is of its own call. -/
  informed : x.Informed
  /-- Its reservation is the owner's. -/
  reserved : x.Reserved o

theorem Process.Turn.stands (h : x.Turn o i o' y) (hreserved : x.Reserved o) :
    (y.hear o'.state.sent reason (some o')).Stands o' := by
  have hnext := h.next
  exact ⟨{ hnext with }, h.informed_hear, h.reserved_hear hreserved⟩

theorem Process.Stands.step {owner : Option Owner} {act : Exchange.Act} {e : Exchange}
    (h : x.Stands o) (hscripted : x.Scripted) (halive : x.alive = true) (hown : act.own = true)
    (hst : Exchange.Step x.client (x.exchange owner) act e) : (x.after e).Stands o where
  footing := { h.footing with
    mourned := fun hmourned => by
      have hdead := (h.footing.mourned hmourned).1
      rw [halive] at hdead
      cases hdead }
  informed token holder hholds :=
    h.informed token holder (hscripted.holds_own halive hown hst hholds)
  reserved reservation hclaims :=
    h.reserved reservation (hscripted.claims_own halive hown hst hclaims)

/-- What a process holds when it dies, it has held before. -/
theorem Process.holds_die {token holder : Ref}
    (h : ({ x with alive := false } : Process).Holds token holder) : x.Holds token holder := by
  cases h with
  | issued _ hhears => cases hhears.alive
  | retained _ _ hhears => cases hhears.alive
  | returned hnext hsent =>
      rcases hsent with hdead | hsent
      · cases hdead
      · exact .returned hnext (.inr hsent)

theorem Process.Stands.die (h : x.Stands o) (halive : x.alive = true) :
    ({ x with alive := false } : Process).Stands o where
  footing := { h.footing with
    mourned := fun hmourned => by
      have hdead := (h.footing.mourned hmourned).1
      rw [halive] at hdead
      cases hdead }
  informed token holder hholds := h.informed token holder (Process.holds_die hholds)
  reserved reservation hclaims := by
    cases hclaims with
    | granted _ _ hhears => cases hhears.alive
    | said hspoken =>
        rcases hspoken with hinbox | ⟨hdead, -⟩
        · exact h.reserved reservation (.said (.inl hinbox))
        · cases hdead

section

variable {backendToken metadata : Term}

/-- What an issue has given up holds no place. -/
theorem Process.Stands.vacated (h : x.Stands o) (hsound : o.state.custody.Sound)
    (hscripted : x.Scripted) (hcall : x.client.call = .issue backendToken metadata)
    (hgone : .cancelIssueReservation x.client.requestRef ∈ x.handled ∨ x.mourned = true) :
    o.state.custody.reservations.fetch x.client.requestRef = none := by
  refine Option.eq_none_iff_forall_ne_some.mpr fun r hr => ?_
  obtain ⟨-, hone, hwatch, -⟩ := h.footing.reservation r hr
  rcases hgone with hcancel | hmourned
  · have hne : x.script ≠ [] := List.ne_nil_of_mem
      (List.mem_append_left _ (List.mem_append_left _ hcancel))
    obtain ⟨next, hcourse⟩ := hscripted.issue hcall hne
    have htake : x.script.take 1 = x.handled := by
      rw [Process.script, List.append_assoc, ← hone, List.take_left']
      rfl
    exact hcourse.vacates_second _ (htake ▸ hcancel)
  · have hnone := (h.footing.mourned hmourned).2.2 _ hwatch
    rw [hsound.reservation _ r hr] at hnone
    cases hnone

/-- The lease of an issue that was given up is not active. -/
theorem Process.Stands.revoked (h : x.Stands o) (hsound : o.state.custody.Sound)
    (hscripted : x.Scripted) (hcall : x.client.call = .issue backendToken metadata)
    {token : Ref} (htoken : x.token = some token)
    (hgone : .cancelIssue x.client.requestRef ∈ x.handled ∨
      x.mourned = true ∧ .confirmIssue token x.client.requestRef ∉ x.handled) :
    o.state.custody.holdings token = none := by
  refine Option.eq_none_iff_forall_ne_some.mpr fun H hH => ?_
  obtain ⟨hown, hconfirmed⟩ := h.footing.token token htoken H hH
  have hsub {message : Message} (hmem : message ∈ x.handled) : message ∈ x.script :=
    List.mem_append_left _ (List.mem_append_left _ hmem)
  have hunconfirmed : .confirmIssue token x.client.requestRef ∉ x.handled := by
    rcases hgone with hcancel | ⟨-, hnot⟩
    · obtain ⟨next, hcourse⟩ := hscripted.issue hcall (List.ne_nil_of_mem (hsub hcancel))
      exact fun hmem => (hcourse.revokes_third _).2 (hsub hcancel) _ _ (hsub hmem)
    · exact hnot
  cases hpending : H.pendingIssue with
  | none => exact hunconfirmed (hconfirmed hpending)
  | some p =>
      have hp : H.pendingIssue = some (p.1, x.client.requestRef) := by
        rw [hpending, ← hown p hpending]
      obtain ⟨-, htwo, hwatch, -⟩ := h.footing.issue token H p.1 hH hp
      rcases hgone with hcancel | ⟨hmourned, -⟩
      · obtain ⟨next, hcourse⟩ := hscripted.issue hcall (List.ne_nil_of_mem (hsub hcancel))
        have htake : x.script.take 2 = x.handled := by
          rw [Process.script, List.append_assoc, ← htwo, List.take_left']
          rfl
        exact (hcourse.revokes_third _).1 (htake ▸ hcancel)
      · have hnone := (h.footing.mourned hmourned).2.2 _ hwatch
        rw [(hsound.issue _ _ _).mpr ⟨H, hH, hp⟩] at hnone
        cases hnone

end

/-- A commit that was handled has its token. -/
def Process.Tokened (x : Process) : Prop :=
  ∀ message ∈ x.handled, message.commits = true → ∃ token, x.token = some token

theorem Process.serve_script (x : Process) (env : Env) (sent : List Signal) :
    (x.serve env sent).script = x.script := by
  simp only [script, serve]
  cases x.inbox <;> simp

theorem Process.Tokened.serve (h : x.Tokened) (env : Env) (sent : List Signal) :
    (x.serve env sent).Tokened := by
  intro message hmem hcommits
  simp only [Process.serve]
  split
  · exact ⟨_, rfl⟩
  · next hhead =>
      rcases List.mem_append.mp hmem with hold | hnew
      · exact h message hold hcommits
      · refine absurd ?_ hhead
        rw [Option.mem_toList] at hnew
        rw [Option.mem_def.mp hnew]
        exact hcommits

end

/-! ## Networks -/

theorem set_some {α : Type} {l : List α} {j k : Nat} {a b : α} (h : (l.set k a)[j]? = some b) :
    (j = k ∧ b = a) ∨ (j ≠ k ∧ l[j]? = some b) := by
  by_cases hjk : j = k
  · subst hjk
    have hlt : j < l.length := by
      have hlt := (List.getElem?_eq_some_iff.mp h).1
      simpa using hlt
    rw [List.getElem?_set_self hlt] at h
    exact .inl ⟨rfl, (Option.some.inj h).symm⟩
  · rw [List.getElem?_set_ne (Ne.symm hjk)] at h
    exact .inr ⟨hjk, h⟩

theorem pairwise_get {α : Type} {R : α → α → Prop} {l : List α} {j k : Nat} {a b : α}
    (h : l.Pairwise R) (hsymm : ∀ a b, R a b → R b a) (hj : l[j]? = some a) (hk : l[k]? = some b)
    (hjk : j ≠ k) : R a b := by
  obtain ⟨hj', rfl⟩ := List.getElem?_eq_some_iff.mp hj
  obtain ⟨hk', rfl⟩ := List.getElem?_eq_some_iff.mp hk
  rcases Nat.lt_or_gt_of_ne hjk with hlt | hgt
  · exact List.pairwise_iff_getElem.mp h j k hj' hk' hlt
  · exact hsymm _ _ (List.pairwise_iff_getElem.mp h k j hk' hj' hgt)

namespace Network

/-- Two processes share no reference. -/
structure Apart (x y : Process) : Prop where
  /-- They have different references. -/
  request : x.client.requestRef ≠ y.client.requestRef
  /-- They make different holders. -/
  child : ∀ childHolder, x.client.childHolder? = some childHolder →
    y.client.childHolder? ≠ some childHolder

/-- What holds while the owner lives. -/
structure Living (w : Network) (o : Owner) : Prop where
  /-- The owner is in a state it can reach. -/
  reachable : Owner.Reachable o
  /-- Every process stands. -/
  stands : ∀ (k : Nat) (x : Process), w.processes[k]? = some x → x.Stands o
  /-- No two processes have one monitor. -/
  watches : ∀ (j k : Nat) (x y : Process), w.processes[j]? = some x →
    w.processes[k]? = some y → j ≠ k →
    ∀ monitorRef, x.watch = some monitorRef → y.watch ≠ some monitorRef

/-- The invariant of a network. -/
structure Kept (w : Network) : Prop where
  /-- Every process keeps to its script. -/
  scripted : ∀ (k : Nat) (x : Process), w.processes[k]? = some x → x.Scripted
  /-- Every token is of the process's own commit. -/
  tokened : ∀ (k : Nat) (x : Process), w.processes[k]? = some x → x.Tokened
  /-- Two processes are apart. -/
  apart : ∀ (j k : Nat) (x y : Process), w.processes[j]? = some x → w.processes[k]? = some y →
    j ≠ k → Apart x y
  /-- The owner is right about them while it lives. -/
  living : ∀ o, w.owner = some o → w.Living o

variable {w w' : Network} {o : Owner} {i : Input} {sender : Sender} {sent : List Signal}

/-- The process when the owner has handled the event, before it hears of that. -/
def reached (sender : Sender) (i : Input) (sent : List Signal) (k : Nat) (x : Process) : Process :=
  if sender = .process k then x.serve i.env sent else if sender = .down k then x.mourn else x

theorem served_eq (reason : Term) (left : Option Owner) (k : Nat) (x : Process) :
    served sender i sent reason left k x = (reached sender i sent k x).hear sent reason left := rfl

/-- An event is one process's own, or it is foreign. -/
theorem Source.handles (h : w.Kept) (howner : w.owner = some o)
    (hsource : w.Source i.event sender) {k : Nat} {x : Process} (hx : w.processes[k]? = some x) :
    x.Handles i sent (reached sender i sent k x) := by
  unfold reached
  cases hsource with
  | @process j y message rest hy hinbox hevent =>
      by_cases hjk : j = k
      · subst hjk
        rw [hx] at hy
        cases hy
        rw [if_pos rfl]
        exact .own hinbox hevent
      · rw [if_neg (by simpa using hjk), if_neg (by simp)]
        have hhead := (h.scripted j y hy).head hinbox
        have hapart := h.apart j k y x hy hx hjk
        refine .foreign ⟨fun message' hmessage => ?_, fun m _ hfired => ?_⟩
        · rw [hevent] at hmessage
          cases hmessage
          exact hhead.foreign hapart.request hapart.child
        · rw [hevent] at hfired
          exact hhead.not_fired m hfired
  | @down j y monitorRef hy hdead hinbox hwatch hevent =>
      by_cases hjk : j = k
      · subst hjk
        rw [hx] at hy
        cases hy
        rw [if_neg (by simp), if_pos rfl]
        exact .mourned hdead hinbox hwatch hevent
      · rw [if_neg (by simp), if_neg (by simpa using hjk)]
        obtain ⟨reason, hdown⟩ := hevent
        refine .foreign ⟨fun message' hmessage => ?_, fun m hm hfired => ?_⟩
        · rw [hdown] at hmessage
          cases hmessage
          exact ⟨by simp [Message.requestRef?], by simp [Message.childHolder?]⟩
        · obtain ⟨reason', heq⟩ := hfired
          rw [hdown] at heq
          cases heq
          exact (h.living o howner).watches j k y x hy hx hjk monitorRef hwatch hm
  | outside hforeign =>
      rw [if_neg (by simp), if_neg (by simp)]
      exact .foreign (hforeign x (List.mem_of_getElem? hx))

theorem reached_same (sender : Sender) (i : Input) (sent : List Signal) (k : Nat) (x : Process) :
    (reached sender i sent k x).client = x.client ∧ (reached sender i sent k x).phase = x.phase ∧
      (reached sender i sent k x).script = x.script := by
  unfold reached
  split
  · exact ⟨rfl, rfl, x.serve_script i.env sent⟩
  · split <;> exact ⟨rfl, rfl, rfl⟩

theorem scripted_served {reason : Term} {left : Option Owner} {k : Nat} {x : Process}
    (h : x.Scripted) : (served sender i sent reason left k x).Scripted := by
  rw [served_eq]
  obtain ⟨hclient, hphase, hscript⟩ := reached_same sender i sent k x
  have hscript' : ((reached sender i sent k x).hear sent reason left).script = x.script := hscript
  refine ⟨fun next hnext => ?_, fun hnext => ?_⟩
  · rw [hscript', show ((reached sender i sent k x).hear sent reason left).client = x.client
      from hclient]
    exact h.course next (hphase ▸ hnext)
  · rw [hscript']
    exact h.silent (hphase ▸ hnext)

/-- Where a process of the next network comes from. -/
theorem Step.origin {act : Act} (hst : Step w act w') {j : Nat} {x' : Process}
    (hx' : w'.processes[j]? = some x') : ∃ x, w.processes[j]? = some x ∧
      x'.client = x.client ∧ (x.Scripted → x'.Scripted) ∧ (x.Tokened → x'.Tokened) ∧
      (x'.phase ≠ .idle → x.phase ≠ .idle ∨ w.Given x.client) := by
  have same {x : Process} (hx : w.processes[j]? = some x) : ∃ x₀, w.processes[j]? = some x₀ ∧
      x.client = x₀.client ∧ (x₀.Scripted → x.Scripted) ∧ (x₀.Tokened → x.Tokened) ∧
      (x.phase ≠ .idle → x₀.phase ≠ .idle ∨ w.Given x₀.client) :=
    ⟨x, hx, rfl, id, id, .inl⟩
  cases hst with
  | @process k x act e hx _ hown hgiven hstep =>
      rcases set_some hx' with ⟨rfl, rfl⟩ | ⟨-, hold⟩
      · refine ⟨x, hx, rfl, fun h => h.step hown hstep, id, fun _ => ?_⟩
        exact (em (x.phase = .idle)).symm.imp id hgiven
      · exact same hold
  | die hx _ =>
      rcases set_some hx' with ⟨rfl, rfl⟩ | ⟨-, hold⟩
      · exact ⟨_, hx, rfl, fun h => ⟨h.course, h.silent⟩, id, .inl⟩
      · exact same hold
  | @owner o i sender left sent _ _ _ _ =>
      rw [List.getElem?_mapIdx] at hx'
      obtain ⟨x, hx, rfl⟩ := Option.map_eq_some_iff.mp hx'
      obtain ⟨hclient, hphase, -⟩ := reached_same sender i sent j x
      refine ⟨x, hx, hclient, scripted_served, fun h => ?_, fun hstarted => .inl ?_⟩
      · simp only [served]
        split
        · exact h.serve i.env sent
        · split <;> exact h
      · rw [← hphase]
        exact hstarted
  | kill _ _ =>
      rw [List.getElem?_map] at hx'
      obtain ⟨x, hx, rfl⟩ := Option.map_eq_some_iff.mp hx'
      exact ⟨x, hx, rfl, fun h => ⟨h.course, h.silent⟩, id, .inl⟩

theorem Kept.turn (h : w.Kept) (howner : w.owner = some o) {o' : Owner}
    (hsource : w.Source i.event sender) (hst : Owner.Step o i o') {k : Nat} {x : Process}
    (hx : w.processes[k]? = some x) :
    x.Turn o i o' (reached sender i o'.state.sent k x) where
  reachable := (h.living o howner).reachable
  step := hst
  scripted := h.scripted k x hx
  footing := ((h.living o howner).stands k x hx).footing
  informed := ((h.living o howner).stands k x hx).informed
  handles := hsource.handles h howner hx

/-- The monitor of a process is an old one, or the owner has just made it for its message. -/
theorem reached_watch {k : Nat} {x : Process} {monitorRef : Ref}
    (hwatch : (reached sender i sent k x).watch = some monitorRef) :
    x.watch = some monitorRef ∨ sender = .process k ∧
      sent.findSome? Signal.watch = some monitorRef := by
  unfold reached at hwatch
  split at hwatch
  · next hsender =>
      simp only [Process.serve] at hwatch
      cases hx : x.watch with
      | some m =>
          rw [hx] at hwatch
          exact .inl hwatch
      | none =>
          rw [hx] at hwatch
          exact .inr ⟨hsender, hwatch⟩
  · split at hwatch <;> exact .inl hwatch

theorem Living.owner (h : w.Kept) (howner : w.owner = some o) {o' : Owner} (reason : Term)
    (named : List (Ref × Ref)) (hsource : w.Source i.event sender) (hst : Owner.Step o i o') :
    Living ⟨some o', w.processes.mapIdx (served sender i o'.state.sent reason (some o')), named⟩
      o' := by
  have hliving := h.living o howner
  -- No monitor that this callback makes is one that a process has.
  have hnew {k : Nat} {x : Process} (hx : w.processes[k]? = some x) {m : Ref}
      (hmade : o'.state.sent.findSome? Signal.watch = some m) : x.watch ≠ some m := by
    intro hold
    have hturn := h.turn howner hsource hst hx
    rw [findSome_watch] at hmade
    have hlt := hturn.footing.watch_lt m hold
    rw [hturn.change.made hmade] at hlt
    exact Nat.not_lt.mpr (hst.made (k := 1) (by omega)).1 hlt
  refine ⟨hliving.reachable.step hst, fun k z hz => ?_, fun j k y z hy hz hjk m hym hzm => ?_⟩
  · rw [List.getElem?_mapIdx] at hz
    obtain ⟨x, hx, rfl⟩ := Option.map_eq_some_iff.mp hz
    exact (h.turn howner hsource hst hx).stands (hliving.stands k x hx).reserved
  · rw [List.getElem?_mapIdx] at hy hz
    obtain ⟨x₁, hx₁, rfl⟩ := Option.map_eq_some_iff.mp hy
    obtain ⟨x₂, hx₂, rfl⟩ := Option.map_eq_some_iff.mp hz
    rcases reached_watch (k := j) hym with hold₁ | ⟨hsender₁, hmade⟩
    · rcases reached_watch (k := k) hzm with hold₂ | ⟨-, hmade⟩
      · exact hliving.watches j k x₁ x₂ hx₁ hx₂ hjk m hold₁ hold₂
      · exact hnew hx₁ hmade hold₁
    · rcases reached_watch (k := k) hzm with hold₂ | ⟨hsender₂, -⟩
      · exact hnew hx₂ hmade hold₂
      · rw [hsender₁] at hsender₂
        exact hjk (Sender.process.inj hsender₂)

/-- A step of one process keeps what the others have with the owner. -/
theorem Living.set (h : w.Living o) {k : Nat} {x x' : Process} (hx : w.processes[k]? = some x)
    (hstands : x.Stands o → x'.Stands o) (hwatch : x'.watch = x.watch) :
    Living { w with processes := w.processes.set k x' } o := by
  -- Every process of the new network has the monitor of an old one.
  have origin {j : Nat} {y : Process} (hy : (w.processes.set k x')[j]? = some y) :
      ∃ y₀, w.processes[j]? = some y₀ ∧ y.watch = y₀.watch := by
    rcases set_some hy with ⟨rfl, rfl⟩ | ⟨-, hold⟩
    · exact ⟨x, hx, hwatch⟩
    · exact ⟨y, hold, rfl⟩
  refine ⟨h.reachable, fun j y hy => ?_, fun j k y z hy hz hjk m hym hzm => ?_⟩
  · rcases set_some hy with ⟨rfl, rfl⟩ | ⟨-, hold⟩
    · exact hstands (h.stands j x hx)
    · exact h.stands j y hold
  · obtain ⟨y₀, hy₀, hyw⟩ := origin hy
    obtain ⟨z₀, hz₀, hzw⟩ := origin hz
    exact h.watches j k y₀ z₀ hy₀ hz₀ hjk m (hyw ▸ hym) (hzw ▸ hzm)

theorem Kept.step {act : Act} (h : w.Kept) (hst : Step w act w') : w'.Kept where
  scripted j x' hx' := by
    obtain ⟨x, hx, -, hscripted, -⟩ := hst.origin hx'
    exact hscripted (h.scripted j x hx)
  tokened j x' hx' := by
    obtain ⟨x, hx, -, -, htokened, -⟩ := hst.origin hx'
    exact htokened (h.tokened j x hx)
  apart j k x' y' hx' hy' hjk := by
    obtain ⟨x, hx, hxc, -⟩ := hst.origin hx'
    obtain ⟨y, hy, hyc, -⟩ := hst.origin hy'
    obtain ⟨hrequest, hchild⟩ := h.apart j k x y hx hy hjk
    exact ⟨hxc ▸ hyc ▸ hrequest, hxc ▸ hyc ▸ hchild⟩
  living o' ho' := by
    cases hst with
    | process hx halive hown _ hstep =>
        exact (h.living o' ho').set hx
          (fun hstands => hstands.step (h.scripted _ _ hx) halive hown hstep) rfl
    | die hx halive => exact (h.living o' ho').set hx (fun hstands => hstands.die halive) rfl
    | owner reason howner hsource hmove =>
        cases hmove with
        | lives hlives =>
            cases ho'
            exact Living.owner h howner reason _ hsource hlives
        | dies _ _ _ => cases ho'
        | raises _ => cases ho'
    | kill _ _ => cases ho'

theorem Init.stands (h : Init w) (ho : w.owner = some o) {x : Process} (hx : x ∈ w.processes) :
    x.Stands o := by
  obtain ⟨hhandled, hwatch, htoken, hmourned, hinit⟩ := h.processes x hx
  obtain ⟨_, _, _, hstarted, -⟩ := h.owner o ho
  have hcustody := init_custody hstarted
  have hphase : x.phase = .idle := hinit.phase
  -- No answer to the call is there before the call.
  have hears {answer : Reply} (hhears : x.Hears answer) : False := by
    have hmem := hhears.mem
    rw [show x.transit = [] from hinit.transit, List.nil_append] at hmem
    have hseen := hinit.mailbox _ hmem
    simp [Arrival.seen] at hseen
  refine ⟨?_, fun token holder hholds => ?_, fun reservation hclaims => ?_⟩
  · refine ⟨fun _ => hwatch, fun _ => htoken, ?_, ?_, h.supply o ho x hx,
      ?_, ?_, ?_, ?_, ?_, ?_, ?_⟩
    · simp [hwatch]
    · simp [htoken]
    all_goals simp [hcustody, hmourned]
  · cases hholds with
    | issued _ hhears => exact (hears hhears).elim
    | retained _ _ hhears => exact (hears hhears).elim
    | returned hnext _ => simp [hphase, Phase.next?] at hnext
  · cases hclaims with
    | granted _ _ hhears => exact (hears hhears).elim
    | said hspoken =>
        rcases hspoken with hinbox | ⟨-, htodo⟩
        · rw [show x.inbox = [] from hinit.inbox] at hinbox
          cases hinbox
        · simp [hphase, Phase.todo] at htodo

theorem Init.kept (h : Init w) : w.Kept where
  scripted k x hx := by
    obtain ⟨hhandled, -, -, -, hinit⟩ := h.processes x (List.mem_of_getElem? hx)
    have hphase : x.phase = .idle := hinit.phase
    have hinbox : x.inbox = [] := hinit.inbox
    refine ⟨fun next hnext => ?_, fun _ => ?_⟩
    · rw [hphase] at hnext
      cases hnext
    · simp [Process.script, hhandled, hinbox, hphase, Phase.todo]
  tokened k x hx := by
    obtain ⟨hhandled, -⟩ := h.processes x (List.mem_of_getElem? hx)
    intro message hmem
    rw [hhandled] at hmem
    cases hmem
  apart j k x y hx hy hjk := by
    refine ⟨?_, fun child hchild hchild' => ?_⟩
    · have hpairs : w.processes.Pairwise fun x y => x.client.requestRef ≠ y.client.requestRef :=
        List.pairwise_map.mp h.requests
      have hne := pairwise_get hpairs (fun _ _ => Ne.symm) hx hy hjk
      exact hne
    · have hpairs := List.pairwise_filterMap.mp h.children
      refine pairwise_get hpairs (fun a b hab c hc c' hc' => ?_) hx hy hjk _ hchild _ hchild' rfl
      exact (hab c' hc' c hc).symm
  living o ho := by
    have hinit := h.owner o ho
    refine ⟨⟨[], o, hinit, .nil⟩, fun k x hx => ?_, fun j k x y hx hy _ m hm => ?_⟩
    · exact h.stands ho (List.mem_of_getElem? hx)
    · rw [(h.processes x (List.mem_of_getElem? hx)).2.1] at hm
      cases hm

theorem Run.kept {visits : List (Visit Network Act)} (h : Run visits w) : w.Kept := by
  obtain ⟨w₀, hinit, hpath⟩ := h
  exact hpath.invariant (fun _ _ _ hkept hst => hkept.step hst) hinit.kept

/-! ## Results -/

/-- The oldest message of a process, when it is a commit, finds its reservation. -/
theorem Living.commit (h : w.Living o) {k : Nat} {x : Process} (hscripted : x.Scripted)
    (hx : w.processes[k]? = some x) {reservation requestRef : Ref} {backendToken : Term}
    {replyTo : Pid} {rest : List Message}
    (hinbox : x.inbox = .commitIssue reservation backendToken replyTo requestRef :: rest) :
    ∃ r, o.state.issueReservations.fetch requestRef = some r ∧ r.reservation = reservation ∧
      r.replyTo = replyTo ∧
      o.state.custody.watches.fetch r.monitorRef = some (.reservation requestRef) := by
  have hstands := h.stands k x hx
  have hclaims : x.Claims reservation := .said (.inl (by rw [hinbox]; exact List.mem_cons_self))
  obtain ⟨r, hr, hnumber⟩ := hstands.reserved reservation hclaims
  obtain ⟨-, -, -, hreply⟩ := hstands.footing.reservation r hr
  have hsound := h.reachable.choose_spec.watched.sound.reservation _ r hr
  cases hscripted.head hinbox with
  | commitIssue _ _ => exact ⟨r, hr, hnumber, hreply, hsound⟩

theorem Step.source (hst : Step w (.owner i sender) w') :
    ∃ o, w.owner = some o ∧ w.Source i.event sender := by
  cases hst with
  | owner _ howner hsource _ => exact ⟨_, howner, hsource⟩

/-! ### A sample network -/

/-- The sample caller before its call, as a process. -/
def sampleProcess : Process where
  client := Exchange.sampleClient
  alive := true
  handled := []
  inbox := []
  transit := []
  aliased := false
  monitored := false
  mailbox := []
  phase := .idle
  watch := none
  token := none
  mourned := false

/-- A new owner and one process. -/
def sampleNetwork : Network where
  owner := Exchange.sampleStart.owner
  processes := [sampleProcess]
  named := []

theorem sampleNetwork_init : Init sampleNetwork where
  owner := Exchange.sampleStart_init.owner
  processes x hx := by
    obtain rfl := List.mem_singleton.mp hx
    exact ⟨rfl, rfl, rfl, rfl, Exchange.sampleStart_init⟩
  requests := List.nodup_singleton _
  children := List.nodup_nil
  supply o _ x hx child hchild := by
    obtain rfl := List.mem_singleton.mp hx
    cases hchild
  named := rfl

theorem given_sample (w : Network) : w.Given Exchange.sampleClient := fun _ _ _ hcall => by
  cases hcall

/-- A network of the sample process. -/
def alone (owner : Option Owner) (x : Process) : Network := ⟨owner, [x], []⟩

theorem alone_process {owner : Option Owner} {x : Process} {act : Exchange.Act} {e : Exchange}
    (halive : x.alive = true) (hown : act.own = true) (hclient : x.client = Exchange.sampleClient)
    (hst : Exchange.Step x.client (x.exchange owner) act e) :
    Step (alone owner x) (.process 0 act) (alone owner (x.after e)) :=
  .process rfl halive hown (fun _ => hclient ▸ given_sample _) hst

theorem alone_owner {o o' : Owner} {x : Process} {message : Message} {rest : List Message}
    (reason : Term) (hinbox : x.inbox = message :: rest) (hevent : i.event = .info message)
    (hlives : o.advance i = some o') (hretires : i.event.retires = none) :
    Step (alone (some o) x) (.owner i (.process 0))
      (alone (some o') ((x.serve i.env o'.state.sent).hear o'.state.sent reason (some o'))) := by
  have hst : Step (alone (some o) x) (.owner i (.process 0)) _ :=
    .owner reason rfl (.process rfl hinbox hevent) (.lives (Owner.advance_step hlives))
  simpa [alone, served, hretires] using hst

/-- The process has asked for a reservation and waits. -/
theorem sample_waits : ∃ visits, Path Step sampleNetwork visits
    (alone Exchange.sampleStart.owner
      { sampleProcess with
        inbox := [Exchange.sampleClient.request]
        aliased := true
        monitored := true
        phase := .waiting (.issueReservation (.integer 7)) }) := by
  have hstart : Path Step sampleNetwork [] (alone Exchange.sampleStart.owner sampleProcess) := .nil
  have hmonitored := hstart.snoc (alone_process rfl rfl rfl (.monitor rfl rfl))
  have halive := hmonitored.snoc (alone_process rfl rfl rfl (.alive rfl rfl))
  have hsent := (halive.snoc (alone_process rfl rfl rfl (.act rfl))).snoc
    (alone_process rfl rfl rfl (.act rfl))
  exact ⟨_, hsent.snoc (alone_process rfl rfl rfl (.await rfl))⟩

/-- **No process runs into a refused commit.**  Every commit of a process that the owner
handles finds the reservation that it names under its request, with its reply address and
a monitor that is there, whatever the other processes do. -/
theorem commit_reserved {visits : List (Visit Network Act)} (h : Run visits w)
    {v : Visit Network Act} (hv : v ∈ visits) {k : Nat} (hinput : v.input = .owner i (.process k))
    {reservation requestRef : Ref} {backendToken : Term} {replyTo : Pid}
    (hevent : i.event = .info (.commitIssue reservation backendToken replyTo requestRef)) :
    ∃ o r, v.pre.owner = some o ∧ o.state.issueReservations.fetch requestRef = some r ∧
      r.reservation = reservation ∧ r.replyTo = replyTo ∧
      o.state.custody.watches.fetch r.monitorRef = some (.reservation requestRef) := by
  obtain ⟨w₀, hinit, hpath⟩ := h
  obtain ⟨before, after, -, hbefore, hst, -⟩ := hpath.mem_split hv
  have hkept : v.pre.Kept := Run.kept ⟨w₀, hinit, hbefore⟩
  rw [hinput] at hst
  obtain ⟨o, howner, hsource⟩ := hst.source
  cases hsource with
  | process hx hinbox hevent' =>
      rw [hevent] at hevent'
      cases hevent'
      obtain ⟨r, hr⟩ := (hkept.living o howner).commit (hkept.scripted _ _ hx) hx hinbox
      exact ⟨o, r, howner, hr⟩

/-- The sample process reserves and commits. -/
theorem commit_reserved_sample : ∃ visits w, Run visits w ∧ ∃ v ∈ visits, ∃ o r,
    v.pre.owner = some o ∧ o.state.issueReservations.fetch 50 = some r ∧ r.reservation = 9 := by
  obtain ⟨visits, hpath⟩ := sample_waits
  have hgranted := hpath.snoc (alone_owner
    (i := ⟨.plain 9, .info Exchange.sampleClient.request⟩) (.atom .nil) rfl rfl rfl rfl)
  have hreceived := (hgranted.snoc (alone_process rfl rfl rfl (.deliver rfl rfl))).snoc
    (alone_process rfl rfl rfl (.receive rfl rfl))
  have hsent := hreceived.snoc (alone_process rfl rfl rfl (.act rfl))
  have hcommitted := hsent.snoc (alone_owner
    (i := ⟨.plain 18, .info (.commitIssue 9 (.integer 7) 100 50)⟩) (.atom .nil) rfl rfl rfl rfl)
  have hrun : Run _ _ := ⟨sampleNetwork, sampleNetwork_init, hcommitted⟩
  obtain ⟨o, r, ho, hr, hnumber, -⟩ := commit_reserved hrun
    (List.mem_append_right _ (List.mem_singleton_self _)) rfl rfl
  exact ⟨_, _, hrun, _, List.mem_append_right _ (List.mem_singleton_self _), o, r, ho, hr, hnumber⟩

/-- **The tag of an issue says who has the token.**  An issue that returns `caller_owned`
has sent no commit, and one that returns otherwise has sent one, with its token.  While
the owner lives, a reservation that was given up holds no place and a lease that was given
up is not active. -/
theorem issue_tagged {visits : List (Visit Network Act)} (h : Run visits w) {k : Nat} {x : Process}
    (hx : w.processes[k]? = some x) {backendToken metadata : Term}
    (hcall : x.client.call = .issue backendToken metadata) :
    (∀ result, x.phase = .returned result →
      (∃ reason, result = .callerOwned reason ∧
          (x.handled ++ x.inbox).filter Message.commits = []) ∨
        ∃ reservation, ((∃ lease, result = .ok lease) ∨ ∃ reason, result = .transferred reason) ∧
          (x.handled ++ x.inbox).filter Message.commits =
            [.commitIssue reservation backendToken x.client.self x.client.requestRef]) ∧
      ∀ o, w.owner = some o →
        (.cancelIssueReservation x.client.requestRef ∈ x.handled ∨ x.mourned = true →
          o.state.issueReservations.fetch x.client.requestRef = none) ∧
        ∀ message ∈ x.handled, message.commits = true → ∃ token, x.token = some token ∧
          (.cancelIssue x.client.requestRef ∈ x.handled ∨
              x.mourned = true ∧ .confirmIssue token x.client.requestRef ∉ x.handled →
            ∀ entry, o.state.leases.fetch token = some entry → entry.status ≠ .active) := by
  have hkept := h.kept
  have hscripted := hkept.scripted k x hx
  refine ⟨fun result hphase => ?_, fun o howner => ?_⟩
  · have hcourse := (hscripted.course (.returns result) (by rw [hphase]; rfl)).issue hcall
    have hscript : x.script = x.handled ++ x.inbox := by
      simp [Process.script, hphase, Phase.todo]
    exact hscript ▸ hcourse.tagged
  · have hliving := hkept.living o howner
    have hstands := hliving.stands k x hx
    have hsound := hliving.reachable.choose_spec.watched.sound
    refine ⟨hstands.vacated hsound hscripted hcall, fun message hmem hcommits => ?_⟩
    obtain ⟨token, htoken⟩ := hkept.tokened k x hx message hmem hcommits
    refine ⟨token, htoken, fun hgone entry hentry hactive => ?_⟩
    have hnone := hstands.revoked hsound hscripted hcall htoken hgone
    rw [custody_holding hentry hactive] at hnone
    cases hnone

/-- The sample process gives up before the owner has looked at its request. -/
theorem issue_tagged_sample : ∃ visits w o, Run visits w ∧ w.owner = some o ∧
    (∃ x, w.processes[0]? = some x ∧ x.phase = .returned (.callerOwned .timeout) ∧
      (x.handled ++ x.inbox).filter Message.commits = []) ∧
    o.state.issueReservations.fetch 50 = none := by
  obtain ⟨visits, hpath⟩ := sample_waits
  have hexpired := hpath.snoc (alone_process rfl rfl rfl (.expire rfl rfl))
  have hclosed := ((hexpired.snoc (alone_process rfl rfl rfl (.act rfl))).snoc
    (alone_process rfl rfl rfl (.act rfl))).snoc (alone_process rfl rfl rfl (.act rfl))
  have hreturned := hclosed.snoc (alone_process rfl rfl rfl (.returns rfl))
  have hgiven := (hreturned.snoc (alone_owner
    (i := ⟨.plain 9, .info Exchange.sampleClient.request⟩) (.atom .nil) rfl rfl rfl rfl)).snoc
    (alone_owner
      (i := ⟨.plain 18, .info (.cancelIssueReservation 50)⟩) (.atom .nil) rfl rfl rfl rfl)
  have hrun : Run _ _ := ⟨sampleNetwork, sampleNetwork_init, hgiven⟩
  obtain ⟨htag, hliving⟩ := issue_tagged hrun (k := 0) rfl rfl
  refine ⟨_, _, _, hrun, rfl, ⟨_, rfl, rfl, ?_⟩, (hliving _ rfl).1 (.inl ?_)⟩
  · rcases htag _ rfl with ⟨_, _, hnone⟩ | ⟨_, htransferred, _⟩
    · exact hnone
    · rcases htransferred with ⟨_, heq⟩ | ⟨_, heq⟩ <;> cases heq
  · have hmem : Message.cancelIssueReservation 50 ∈
        [Exchange.sampleClient.request, .cancelIssueReservation 50] := by simp
    exact hmem

end Network

end VideoInterop.LeaseOwner
