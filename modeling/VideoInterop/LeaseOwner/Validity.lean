import VideoInterop.LeaseOwner.Promises

/-!
# A lease that a call has returned

Its holder stays registered until the owner handles a release or an abandonment that names
it.  A lease is revoked by its issuer only, and an issuer that returns it confirms it before
it can be missed; a holder is taken off by its retainer only, and by nobody once that one
has confirmed it.  A retained holder stands on the issue of its lease, so that the issuer
of every lease that a retain is of has returned it.
-/

namespace VideoInterop.LeaseOwner

/-- What the process holds is registered, unless somebody has named it. -/
def Process.Valid (o : Owner) (named : List (Ref × Ref)) (x : Process) : Prop :=
  ∀ token holder, x.Holds token holder → (token, holder) ∉ named →
    ∃ H, o.state.custody.holdings token = some H ∧ holder ∈ H.holders ∧
      ((∃ backendToken metadata, x.client.call = .issue backendToken metadata) →
        H.rootHolder = some holder ∧ H.pendingRetains.fetch holder = none)

/-! ## Turns -/

section

variable {o o' : Owner} {i : Input} {reason : Term} {x y : Process} {token holder : Ref}
  {named : List (Ref × Ref)}

/-- A process that holds a lease returns nothing but a lease. -/
theorem Process.Holds.next {result : Result} (h : x.Holds token holder)
    (hnext : x.phase.next? = some (.returns result)) : ∃ lease, result = .ok lease := by
  cases h with
  | issued hawaits _ => exact absurd hnext (hawaits result)
  | retained _ hawaits _ => exact absurd hnext (hawaits result)
  | returned hnext' _ =>
      rw [hnext] at hnext'
      cases hnext'
      exact ⟨_, rfl⟩

/-- A dead process that holds a lease has confirmed it once all its messages are handled. -/
theorem Process.Scripted.dead (h : x.Scripted) (hdead : x.alive = false) (hinbox : x.inbox = [])
    (hholds : x.Holds token holder) :
    ∃ lease, Course x.client x.handled (.returns (.ok lease)) := by
  cases hholds with
  | issued _ hhears =>
      rw [hhears.alive] at hdead
      cases hdead
  | retained _ _ hhears =>
      rw [hhears.alive] at hdead
      cases hdead
  | @returned lease hnext hsent =>
      have hsent' : sends x.phase.todo = [] := by
        rcases hsent with halive | hsent
        · rw [halive] at hdead
          cases hdead
        · exact hsent
      have hcourse := h.course _ hnext
      rw [Process.script, hinbox, hsent', List.append_nil, List.append_nil] at hcourse
      exact ⟨lease, hcourse⟩

theorem IssueCourse.ok_length {c : Client} {backendToken metadata : Term} {messages : List Message}
    {lease : Lease} (h : IssueCourse c backendToken metadata messages (.returns (.ok lease))) :
    messages.length = 3 := by
  cases h
  rfl

theorem RetainCourse.ok_length {c : Client} {lease lease' : Lease} {childHolder : Ref}
    {valid : AbandonmentGuard → Bool} {messages : List Message}
    (h : RetainCourse c lease childHolder valid messages (.returns (.ok lease'))) :
    messages.length = 2 := by
  cases h
  rfl

namespace Process.Turn

variable (h : Turn o i o' x y)

include h

/-- A monitor of the process that fires does so behind all its messages. -/
theorem fired_dead {monitorRef : Ref} (hwatch : x.watch = some monitorRef)
    (hfired : Fired i.event monitorRef) : x.alive = false ∧ x.inbox = [] := by
  cases h.handles with
  | own hinbox hevent =>
      rw [hevent] at hfired
      exact absurd hfired ((h.scripted.head hinbox).not_fired monitorRef)
  | mourned hdead hinbox _ _ => exact ⟨hdead, hinbox⟩
  | foreign hforeign => exact absurd hfired (hforeign.down monitorRef hwatch)

/-- **Nobody revokes a lease that its issuer holds.** -/
theorem unrevoked {backendToken metadata : Term}
    (hcall : x.client.call = .issue backendToken metadata) (hholds : x.Holds token holder) :
    ¬o.state.custody.Revokes i.event token := by
  have htoken : x.token = some token := by
    rcases (h.informed token holder hholds).2 with ⟨_, _, -, htoken⟩ | ⟨_, _, hretain, -⟩
    · exact htoken
    · rw [hcall] at hretain
      cases hretain
  rintro (⟨requestRef, hevent, hindex⟩ | ⟨monitorRef, requestRef, hfired, hwatch⟩)
  · obtain ⟨H, monitorRef, hH, hpending⟩ := h.sound.index requestRef token hindex
    have hrequest : requestRef = x.client.requestRef :=
      (h.footing.token token htoken H hH).1 _ hpending
    obtain ⟨rest, hinbox, -⟩ := h.asked_own hevent (congrArg some hrequest)
      (by rw [hevent]; rintro m ⟨reason, heq⟩; cases heq)
    cases h.scripted.head hinbox with
    | cancelIssue _ _ hnext =>
        obtain ⟨_, heq⟩ := hholds.next hnext
        cases heq
  · obtain ⟨H, hH, hpending⟩ := (h.sound.issue _ _ _).mp hwatch
    have hrequest : requestRef = x.client.requestRef :=
      (h.footing.token token htoken H hH).1 _ hpending
    obtain ⟨-, htwo, hown, -⟩ := h.footing.issue token H monitorRef hH (hrequest ▸ hpending)
    obtain ⟨hdead, hinbox⟩ := h.fired_dead hown hfired
    obtain ⟨lease, hcourse⟩ := h.scripted.dead hdead hinbox hholds
    have hthree := (hcourse.issue hcall).ok_length
    omega

/-- **Nobody but a release or an abandonment takes off a holder that a process holds.** -/
theorem unremoved (hholds : x.Holds token holder) {H : Holding}
    (hH : o.state.custody.holdings token = some H)
    (hroot : (∃ backendToken metadata, x.client.call = .issue backendToken metadata) →
      H.rootHolder = some holder ∧ H.pendingRetains.fetch holder = none)
    (hretires : i.event.retires.map Prod.snd ≠ some (token, holder)) :
    ¬o.state.custody.Removes i.event token H holder := by
  have hinformed := (h.informed token holder hholds).2
  rintro (hrelease | habandoned | ⟨hcancel, hne⟩ | ⟨monitorRef, hfired, hwatch⟩)
  · exact hretires (by rw [hrelease]; rfl)
  · exact hretires (by rw [habandoned]; rfl)
  · rcases hinformed with ⟨_, _, hcall, -⟩ | ⟨lease, valid, hcall, rfl⟩
    · exact hne (hroot ⟨_, _, hcall⟩).1.symm
    · have hchild : x.client.childHolder? = some holder := by rw [Client.childHolder?, hcall]
      cases h.handles with
      | own hinbox hevent =>
          have hmessage := Event.info.inj (hcancel.symm.trans hevent)
          cases h.scripted.head hinbox with
          | cancelRetain _ _ hnext =>
              obtain ⟨_, heq⟩ := hholds.next hnext
              cases heq
          | _ => cases hmessage
      | mourned _ _ _ hmourned =>
          obtain ⟨reason, heq⟩ := hmourned
          rw [hcancel] at heq
          cases heq
      | foreign hforeign => exact (hforeign.message _ hcancel).child holder hchild rfl
  · obtain ⟨K, requestRef, hK, hpending⟩ := (h.sound.retain _ _ _).mp hwatch
    rw [hH] at hK
    cases hK
    rcases hinformed with ⟨_, _, hcall, -⟩ | ⟨lease, valid, hcall, rfl⟩
    · rw [(hroot ⟨_, _, hcall⟩).2] at hpending
      cases hpending
    · have hchild : x.client.childHolder? = some holder := by rw [Client.childHolder?, hcall]
      obtain ⟨hone, hown, -⟩ := h.footing.retain holder hchild _ H _ hH hpending
      obtain ⟨hdead, hinbox⟩ := h.fired_dead hown hfired
      obtain ⟨lease', hcourse⟩ := h.scripted.dead hdead hinbox hholds
      have htwo := (hcourse.retain hcall).ok_length
      omega

/-- **What the process holds after the event is registered.** -/
theorem valid_hear (hvalid : x.Valid o named)
    (hunrevoked : ∀ token holder, x.Holds token holder →
      ¬o.state.custody.Revokes i.event token) :
    (y.hear o'.state.sent reason (some o')).Valid o'
      (named ++ (i.event.retires.map Prod.snd).toList) := by
  intro token holder hholds hnamed
  have hclient : (y.hear o'.state.sent reason (some o')).client = x.client := h.client
  rw [hclient]
  rw [List.mem_append, not_or] at hnamed
  obtain ⟨hunnamed, hretires⟩ := hnamed
  rcases h.holds_hear hholds with
    hx | ⟨-, ⟨_, _, H, -, -, rfl, rfl, hH⟩ | ⟨_, _, H, hcall, rfl, hH, hmem⟩⟩
  · -- What it has held before stays.
    obtain ⟨H, hH, hmem, hroot⟩ := hvalid token holder hx hunnamed
    have hretires' : i.event.retires.map Prod.snd ≠ some (token, holder) := fun heq =>
      hretires (Option.mem_toList.mpr heq)
    obtain ⟨H', hH', hmem', hnext⟩ := h.change.keeps_holder hH hmem h.unheld
      (hunrevoked token holder hx) (h.unremoved hx hH hroot hretires')
    refine ⟨H', hH', hmem', fun hissue => ?_⟩
    obtain ⟨hrooted, hpending⟩ := hroot hissue
    refine ⟨hnext.root.trans hrooted, Option.eq_none_iff_forall_ne_some.mpr fun p hp => ?_⟩
    rcases hnext.retains holder p hp with hold | ⟨_, _, _, _, _, hnew⟩
    · rw [hpending] at hold
      cases hold
    · exact hnew hmem
  · rcases h.change.holding hH with ⟨K, hK, -⟩ | ⟨-, hissued⟩
    · rw [h.unheld] at hK
      cases hK
    · refine ⟨H, hH, ?_, fun _ => ⟨hissued.root, hissued.retains _⟩⟩
      rw [hissued.holders]
      exact Finset.mem_singleton_self _
  · refine ⟨H, hH, hmem, ?_⟩
    rintro ⟨_, _, hissue⟩
    rw [hcall] at hissue
    cases hissue

end Process.Turn

end

/-! ## Networks -/

namespace Network

variable {w w' : Network} {o o' : Owner} {i : Input} {sender : Sender} {token : Ref}

/-- The issuer of the token has returned its lease. -/
def Rooted (w : Network) (token : Ref) : Prop :=
  ∃ (k : Nat) (x : Process), w.processes[k]? = some x ∧
    (∃ backendToken metadata, x.client.call = .issue backendToken metadata) ∧
    ∃ lease : Lease, x.phase = .returned (.ok lease) ∧ lease.token = token

/-- What the processes hold, while the owner lives. -/
structure Honoured (w : Network) (o : Owner) : Prop where
  /-- A retain that has begun is of a lease that a process was given. -/
  rooted : ∀ (k : Nat) (x : Process), w.processes[k]? = some x → x.phase ≠ .idle →
    ∀ lease childHolder valid, x.client.call = .retain lease childHolder valid →
      w.Rooted lease.token
  /-- What a process holds is registered, unless it was named. -/
  valid : ∀ (k : Nat) (x : Process), w.processes[k]? = some x → x.Valid o w.named

/-- A process that has returned a lease holds it. -/
theorem holds_returned {x : Process} {lease : Lease} (hphase : x.phase = .returned (.ok lease)) :
    x.Holds lease.token lease.holder :=
  .returned (by rw [hphase]; rfl) (.inr (by rw [hphase]; rfl))

/-- A process that holds a lease has begun its call. -/
theorem Living.started (h : w.Living o) {k : Nat} {x : Process} (hx : w.processes[k]? = some x)
    (hscripted : x.Scripted) {holder : Ref} (hholds : x.Holds token holder) : x.phase ≠ .idle := by
  intro hphase
  have hscript := hscripted.silent (by rw [hphase]; rfl)
  refine ((h.stands k x hx).informed token holder hholds).1 ?_
  exact (List.append_eq_nil_iff.mp (List.append_eq_nil_iff.mp hscript).1).1

/-- The issuer of a lease that a call retains has returned it. -/
theorem Honoured.given (h : w.Honoured o) (hliving : w.Living o) {c : Client} (hgiven : w.Given c)
    {lease : Lease} {childHolder : Ref} {valid : AbandonmentGuard → Bool}
    (hcall : c.call = .retain lease childHolder valid) : w.Rooted lease.token := by
  obtain ⟨x, hx, returned, hphase, htoken, -⟩ := hgiven lease childHolder valid hcall
  obtain ⟨k, hk⟩ := List.getElem?_of_mem hx
  rw [← htoken]
  rcases ((hliving.stands k x hk).informed _ _ (holds_returned hphase)).2 with
    ⟨backendToken, metadata, hissue, -⟩ | ⟨lease', valid', hretain, heq⟩
  · exact ⟨k, x, hk, ⟨backendToken, metadata, hissue⟩, returned, hphase, rfl⟩
  · rw [heq]
    exact h.rooted k x hk (by rw [hphase]; simp) lease' _ valid' hretain

/-- **Nobody revokes a lease that a process holds.** -/
theorem Honoured.unrevoked (h : w.Honoured o) (hkept : w.Kept) (howner : w.owner = some o)
    (hsource : w.Source i.event sender) (hst : Owner.Step o i o') {k : Nat} {x : Process}
    (hx : w.processes[k]? = some x) {holder : Ref} (hholds : x.Holds token holder) :
    ¬o.state.custody.Revokes i.event token := by
  have hliving := hkept.living o howner
  have hturn := hkept.turn howner hsource hst hx
  rcases (hturn.informed token holder hholds).2 with ⟨_, _, hissue, -⟩ | ⟨lease, _, hretain, rfl⟩
  · exact hturn.unrevoked hissue hholds
  · have hstarted := hliving.started hx (hkept.scripted k x hx) hholds
    obtain ⟨j, y, hy, ⟨_, _, hissue⟩, lease', hphase, htoken⟩ :=
      h.rooted k x hx hstarted lease holder _ hretain
    rw [← htoken]
    exact (hkept.turn howner hsource hst hy).unrevoked hissue (holds_returned hphase)

/-- Where a process of a network goes. -/
theorem Step.onward {act : Act} (hst : Step w act w') {j : Nat} {x : Process}
    (hx : w.processes[j]? = some x) : ∃ x', w'.processes[j]? = some x' ∧
      x'.client = x.client ∧ ∀ result, x.phase = .returned result →
        x'.phase = .returned result := by
  have hset {k : Nat} {y y' : Process} (hy : w.processes[k]? = some y)
    (hclient : y'.client = y.client)
      (hphase : ∀ result, y.phase = .returned result → y'.phase = .returned result) :
      ∃ x', (w.processes.set k y')[j]? = some x' ∧ x'.client = x.client ∧
        ∀ result, x.phase = .returned result → x'.phase = .returned result := by
    by_cases hkj : k = j
    · subst hkj
      rw [hx] at hy
      cases hy
      exact ⟨y', List.getElem?_set_self (List.getElem?_eq_some_iff.mp hx).1, hclient, hphase⟩
    · exact ⟨x, by rw [List.getElem?_set_ne hkj]; exact hx, rfl, fun _ => id⟩
  cases hst with
  | process hy _ hown _ hstep =>
      refine hset hy rfl fun result hphase => ?_
      have hphase' : (Process.exchange _ w.owner).phase = .returned result := hphase
      cases hstep <;> simp_all [Process.after]
  | die hy _ => exact hset hy rfl fun _ => id
  | @owner o i sender left sent reason _ _ _ =>
      obtain ⟨hclient, hphase, -⟩ := reached_same sender i sent j x
      refine ⟨served sender i sent reason left j x, ?_, hclient, fun result hresult => ?_⟩
      · rw [List.getElem?_mapIdx, hx]
        rfl
      · exact hphase.trans hresult
  | kill reason _ =>
      refine ⟨x.hear [] reason none, ?_, rfl, fun _ => id⟩
      rw [List.getElem?_map, hx]
      rfl

theorem Rooted.step {act : Act} (h : w.Rooted token) (hst : Step w act w') : w'.Rooted token := by
  obtain ⟨k, x, hx, ⟨_, _, hissue⟩, lease, hphase, htoken⟩ := h
  obtain ⟨x', hx', hclient, hreturned⟩ := hst.onward hx
  exact ⟨k, x', hx', ⟨_, _, hclient ▸ hissue⟩, lease, hreturned _ hphase, htoken⟩

/-- An owner that lives after a step has lived before. -/
theorem Step.lives {act : Act} (hst : Step w act w') (howner : w'.owner = some o') :
    ∃ o, w.owner = some o := by
  cases hst with
  | process _ _ _ _ _ => exact ⟨o', howner⟩
  | die _ _ => exact ⟨o', howner⟩
  | owner _ ho _ _ => exact ⟨_, ho⟩
  | kill _ _ => cases howner

theorem Honoured.step {act : Act} (hkept : w.Kept) (h : ∀ o, w.owner = some o → w.Honoured o)
    (hst : Step w act w') (howner : w'.owner = some o') : w'.Honoured o' where
  rooted k x' hx' hstarted lease child valid hcall := by
    obtain ⟨o, ho⟩ := hst.lives howner
    obtain ⟨x, hx, hclient, -, -, hbegan⟩ := hst.origin hx'
    rw [hclient] at hcall
    refine Rooted.step ?_ hst
    rcases hbegan hstarted with hold | hgiven
    · exact (h o ho).rooted k x hx hold lease child valid hcall
    · exact (h o ho).given (hkept.living o ho) hgiven hcall
  valid k x' hx' := by
    cases hst with
    | process hx halive hown _ hstep =>
        have hvalid := (h o' howner).valid
        rcases set_some hx' with ⟨rfl, rfl⟩ | ⟨-, hold⟩
        · exact fun t n hholds =>
            hvalid _ _ hx t n ((hkept.scripted _ _ hx).holds_own halive hown hstep hholds)
        · exact hvalid k x' hold
    | die hx _ =>
        have hvalid := (h o' howner).valid
        rcases set_some hx' with ⟨rfl, rfl⟩ | ⟨-, hold⟩
        · exact fun t n hholds => hvalid _ _ hx t n (Process.holds_die hholds)
        · exact hvalid k x' hold
    | owner reason ho hsource hmove =>
        cases hmove with
        | lives hlives =>
            cases howner
            rw [List.getElem?_mapIdx] at hx'
            obtain ⟨x, hx, rfl⟩ := Option.map_eq_some_iff.mp hx'
            refine (hkept.turn ho hsource hlives hx).valid_hear ((h _ ho).valid k x hx) ?_
            exact fun t n => (h _ ho).unrevoked hkept ho hsource hlives hx
        | dies _ _ _ => cases howner
        | raises _ => cases howner
    | kill _ _ => cases howner

theorem Init.honoured (h : Init w) (howner : w.owner = some o) : w.Honoured o where
  rooted k x hx hstarted := by
    obtain ⟨-, -, -, -, hinit⟩ := h.processes x (List.mem_of_getElem? hx)
    exact absurd hinit.phase hstarted
  valid k x hx token holder hholds := by
    have hliving := h.kept.living o howner
    have hstarted := hliving.started hx (h.kept.scripted k x hx) hholds
    obtain ⟨-, -, -, -, hinit⟩ := h.processes x (List.mem_of_getElem? hx)
    exact absurd hinit.phase hstarted

theorem Run.honoured {visits : List (Visit Network Act)} (h : Run visits w)
    (howner : w.owner = some o) : w.Honoured o := by
  obtain ⟨w₀, hinit, hpath⟩ := h
  induction hpath generalizing o with
  | nil => exact hinit.honoured howner
  | snoc hp hst ih => exact Honoured.step (Run.kept ⟨w₀, hinit, hp⟩) (fun _ => ih) hst howner

/-- **A lease that a call has returned is valid.**  As long as the owner lives and has
handled no release and no abandonment that names the holder, the lease is active and the
holder is registered, whatever else has come to the owner and whoever has died. -/
theorem holder_valid {visits : List (Visit Network Act)} (h : Run visits w) {k : Nat} {x : Process}
    {lease : Lease} (howner : w.owner = some o) (hx : w.processes[k]? = some x)
    (hphase : x.phase = .returned (.ok lease)) (hnamed : (lease.token, lease.holder) ∉ w.named) :
    ∃ entry, o.state.leases.fetch lease.token = some entry ∧ entry.status = .active ∧
      lease.holder ∈ entry.holders := by
  obtain ⟨H, hH, hmem, -⟩ := (h.honoured howner).valid k x hx _ _ (holds_returned hphase) hnamed
  obtain ⟨entry, hentry, hactive, rfl⟩ := holdings_some hH
  exact ⟨entry, hentry, hactive, hmem⟩

/-- The sample process returns its lease, whose confirmation the owner has not handled. -/
theorem holder_valid_sample : ∃ visits w o entry, Run visits w ∧ w.owner = some o ∧
    o.state.leases.fetch 20 = some entry ∧ entry.status = .active ∧ 21 ∈ entry.holders := by
  obtain ⟨visits, hpath⟩ := sample_waits
  have hgranted := hpath.snoc (alone_owner
    (i := ⟨.plain 9, .info Exchange.sampleClient.request⟩) (.atom .nil) rfl rfl rfl rfl)
  have hreceived := (hgranted.snoc (alone_process rfl rfl rfl (.deliver rfl rfl))).snoc
    (alone_process rfl rfl rfl (.receive rfl rfl))
  have hsent := (hreceived.snoc (alone_process rfl rfl rfl (.act rfl))).snoc
    (alone_process rfl rfl rfl (.await rfl))
  have hissued := hsent.snoc (alone_owner
    (i := ⟨.plain 18, .info (.commitIssue 9 (.integer 7) 100 50)⟩) (.atom .nil) rfl rfl rfl rfl)
  have hconfirmed := ((hissued.snoc (alone_process rfl rfl rfl (.deliver rfl rfl))).snoc
    (alone_process rfl rfl rfl (.receive rfl rfl))).snoc (alone_process rfl rfl rfl (.act rfl))
  have hreturned := ((hconfirmed.snoc (alone_process rfl rfl rfl (.act rfl))).snoc
    (alone_process rfl rfl rfl (.act rfl))).snoc (alone_process rfl rfl rfl (.returns rfl))
  have hrun : Run _ _ := ⟨sampleNetwork, sampleNetwork_init, hreturned⟩
  obtain ⟨entry, hentry, hactive, hmem⟩ := holder_valid hrun (k := 0) rfl rfl rfl List.not_mem_nil
  exact ⟨_, _, _, entry, hrun, rfl, hentry, hactive, hmem⟩

end Network

end VideoInterop.LeaseOwner
