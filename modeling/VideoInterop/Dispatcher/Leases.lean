import VideoInterop.Dispatcher.Closing

/-!
# Leases of prepared and claimed frames

A call of `prepare_cloexec` makes a prepared frame, and what happens to the frame is
the rest of the call: it is dropped, or claimed and then retired or dropped.
`Journey` lists the points of such a call and the phase of its lease at each.

From the call on the guard of the lease is kept, and it is given up after the release
was sent.  `Dispatcher.Guards` says what follows from that.
-/

namespace VideoInterop.Dispatcher

/-- What has become of the lease of a call. -/
inductive Phase where
  | unclaimed
  | claimed
  | retired
deriving DecidableEq, Repr

/-- The points of a call of `prepare_cloexec` with a lease. -/
inductive Journey (lease : Lease) : Point → Phase → Prop where
  | acquire : Journey lease (.acquire (.prepare lease)) .unclaimed
  | enter : Journey lease (.enter (.prepare lease)) .unclaimed
  | recheck : Journey lease (.recheck (.prepare lease)) .unclaimed
  | withdraw : Journey lease (.withdraw (.prepare lease)) .unclaimed
  | refused : Journey lease (.refused (.prepare lease)) .unclaimed
  | duplicate : Journey lease (.duplicate (some lease)) .unclaimed
  | prepared : Journey lease (.prepared (some lease)) .unclaimed
  | dropPrepared {result} (h : result ≠ .released) :
      Journey lease (.dropPrepared lease result) .unclaimed
  | leave {result} (h : result ≠ .released) : Journey lease (.leave (.done result)) .unclaimed
  | returned {result} (h : result ≠ .released) : Journey lease (.returned result) .unclaimed
  | claimed : Journey lease (.claimed (some lease)) .claimed
  | leaveRetired {retire} : Journey lease (.leave (.keepalive lease retire)) .retired
  | dropKeepalive {retire} : Journey lease (.dropKeepalive lease retire) .retired
  | dropRetired : Journey lease .dropRetired .retired
  | released : Journey lease (.returned .released) .retired

/-- Is the prepared frame claimed? -/
def Point.claims (go : Bool) : Point → Bool
  | .prepared (some _) => go
  | _ => false

/-- Is the claimed lease retired or dropped? -/
def Point.retires : Point → Bool
  | .claimed (some _) => true
  | _ => false

/-- The phase after a turn. -/
def Phase.next (phase : Phase) (claims retires : Bool) : Phase :=
  if retires then .retired else if claims then .claimed else phase

variable {d d' : ReleaseDispatcher} {p p' : Point} {go : Bool} {w w' : World} {i : Input}
  {visits : List (Visit World Input)} {call : Nat} {lease : Lease} {phase : Phase}

/-- A turn goes on with the journey.  The release is sent by the turn that retires. -/
theorem Journey.turn (h : Journey lease p phase) (hturn : turn d go p = some (.next d' p')) :
    Journey lease p' (phase.next (p.claims go) p.retires) ∧
      p.sends = if p.retires then some (.dispatch lease.release) else none := by
  cases h with
  | acquire =>
      simp only [Dispatcher.turn, Option.some.injEq] at hturn
      split at hturn <;> cases hturn
      · exact ⟨.enter, rfl⟩
      · exact ⟨.refused, rfl⟩
  | enter =>
      cases hturn
      exact ⟨.recheck, rfl⟩
  | recheck =>
      simp only [Dispatcher.turn, Option.some.injEq] at hturn
      split at hturn <;> cases hturn
      · exact ⟨.duplicate, rfl⟩
      · exact ⟨.withdraw, rfl⟩
  | withdraw =>
      simp only [Dispatcher.turn, releaseClient, Option.some.injEq] at hturn
      split at hturn <;> cases hturn
      exact ⟨.refused, rfl⟩
  | refused =>
      cases hturn
      exact ⟨.returned (by simp), rfl⟩
  | duplicate =>
      cases go <;> cases hturn
      · exact ⟨.dropPrepared (by simp), rfl⟩
      · exact ⟨.prepared, rfl⟩
  | prepared =>
      cases go <;> cases hturn
      · exact ⟨.dropPrepared (by simp), rfl⟩
      · exact ⟨.claimed, rfl⟩
  | dropPrepared hresult =>
      cases hturn
      exact ⟨.leave hresult, rfl⟩
  | leave hresult =>
      simp only [Dispatcher.turn, releaseClient, Option.some.injEq] at hturn
      split at hturn <;> cases hturn
      exact ⟨.returned hresult, rfl⟩
  | returned hresult => cases hturn
  | claimed =>
      simp only [Dispatcher.turn] at hturn
      split at hturn <;> cases hturn
      exact ⟨.leaveRetired, rfl⟩
  | leaveRetired =>
      simp only [Dispatcher.turn, releaseClient, Option.some.injEq] at hturn
      split at hturn <;> cases hturn
      exact ⟨.dropKeepalive, rfl⟩
  | @dropKeepalive retire =>
      cases retire <;> cases hturn
      · exact ⟨.released, rfl⟩
      · exact ⟨.dropRetired, rfl⟩
  | dropRetired =>
      cases hturn
      exact ⟨.released, rfl⟩
  | released => cases hturn

/-! ## The release of a lease -/

/-- The call was made to prepare a frame with this lease. -/
def PreparedBy (visits : List (Visit World Input)) (call : Nat) (lease : Lease) : Prop :=
  ∃ v ∈ visits, v.input = .prepare false (some lease) ∧ v.pre.calls.length = call

/-- Is a visit the claim of the frame? -/
def claimsIn (call : Nat) (v : Visit World Input) : Bool :=
  match v.input with
  | .turn call' go => call' == call && (v.pre.calls[call']?).any (Point.claims go)
  | _ => false

/-- Is a visit the retirement of the claimed lease, or its drop? -/
def retiresIn (call : Nat) (v : Visit World Input) : Bool :=
  turnOf call v && (pointIn v).any Point.retires

/-- The command a turn of the call dispatches. -/
def dispatchedBy (call : Nat) (v : Visit World Input) : Option DispatchCommand :=
  if turnOf call v then dispatchedIn v else none

/-- What the visits were for the lease of a call. -/
structure Account (visits : List (Visit World Input)) (call : Nat) (lease : Lease)
    (phase : Phase) : Prop where
  /-- The frame was claimed, unless the phase says it was not. -/
  claimed : visits.any (claimsIn call) = decide (phase ≠ .unclaimed)
  /-- The lease was retired when the phase says so. -/
  retired : visits.any (retiresIn call) = decide (phase = .retired)
  /-- A retired lease had its release dispatched, once; no other had it. -/
  dispatched : visits.filterMap (dispatchedBy call) =
    if phase = .retired then [lease.release] else []

theorem claimsIn_of_not_turn {v : Visit World Input} (h : turnOf call v = false) :
    claimsIn call v = false := by
  unfold claimsIn
  unfold turnOf at h
  split
  · next call' go hinput =>
      rw [hinput] at h
      have hne : (call' == call) = false := h
      rw [hne, Bool.false_and]
  · rfl

/-- A visit that is no turn of the call does not matter. -/
theorem Account.other {v : Visit World Input} (h : Account visits call lease phase)
    (hv : turnOf call v = false) : Account (visits ++ [v]) call lease phase := by
  refine ⟨?_, ?_, ?_⟩
  · rw [List.any_append, h.claimed, List.any_cons, claimsIn_of_not_turn hv]
    simp
  · rw [List.any_append, h.retired, List.any_cons, retiresIn, hv]
    simp
  · rw [List.filterMap_append, h.dispatched, filterMap_one, dispatchedBy, hv]
    simp

/-- No visit was a turn of the call. -/
theorem Account.fresh (h : ∀ v ∈ visits, turnOf call v = false) :
    Account visits call lease .unclaimed := by
  refine ⟨?_, ?_, ?_⟩
  · rw [List.any_eq_false.mpr fun v hv => by
      rw [claimsIn_of_not_turn (h v hv)]; exact Bool.false_ne_true]
    rfl
  · rw [List.any_eq_false.mpr fun v hv => by
      rw [retiresIn, h v hv, Bool.false_and]; exact Bool.false_ne_true]
    rfl
  · refine List.filterMap_eq_nil_iff.mpr fun v hv => ?_
    rw [dispatchedBy, h v hv]
    rfl

theorem turnOf_other (hother : ∀ call go, i ≠ .turn call go) (call : Nat) :
    turnOf call ⟨w, i, w'⟩ = false := by
  unfold turnOf
  split
  · next call' go hinput => exact absurd hinput (hother call' go)
  · rfl

/-- A claimed lease is not yet retired. -/
theorem Journey.phase_claims (h : Journey lease p phase) (hclaims : p.claims go = true) :
    phase = .unclaimed := by
  cases h <;> first | rfl | cases hclaims

theorem Journey.phase_retires (h : Journey lease p phase) (hretires : p.retires = true) :
    phase = .claimed := by
  cases h <;> first | rfl | cases hretires

theorem Account.turn (h : Account visits call lease phase)
    (hjourney : Journey lease p phase) (hp : w.calls[call]? = some p)
    (hturn : Dispatcher.turn w.dispatcher go p = some (.next d p')) :
    Account
      (visits ++ [⟨w, .turn call go, { w with dispatcher := d, calls := w.calls.set call p' }⟩])
      call lease (phase.next (p.claims go) p.retires) := by
  obtain ⟨-, hsends⟩ := hjourney.turn hturn
  have hclaims : p.claims go = true → phase = .unclaimed := hjourney.phase_claims
  have hretires := hjourney.phase_retires
  refine ⟨?_, ?_, ?_⟩
  · rw [List.any_append, h.claimed]
    simp only [List.any_cons, List.any_nil, Bool.or_false, claimsIn, beq_self_eq_true, hp,
      Option.any_some, Bool.true_and, Phase.next]
    cases hc : p.claims go <;> cases hr : p.retires <;> simp
    · rw [hretires hr]
      simp
  · rw [List.any_append, h.retired]
    simp only [List.any_cons, List.any_nil, Bool.or_false, retiresIn, turnOf, pointIn,
      beq_self_eq_true, hp, Option.any_some, Bool.true_and, Phase.next]
    cases hc : p.claims go <;> cases hr : p.retires <;> simp
    · rw [hclaims hc]
      simp
  · rw [List.filterMap_append, h.dispatched, filterMap_one]
    simp only [dispatchedBy, turnOf, dispatchedIn, enqueuedIn, pointIn, beq_self_eq_true, hp,
      if_true, Option.bind_some, hsends, Phase.next]
    cases hc : p.claims go <;> cases hr : p.retires <;> simp
    · rw [hretires hr]
      simp [WorkerCommand.command]
    · rw [hclaims hc]
      simp
    · rw [hretires hr]
      simp [WorkerCommand.command]

theorem snoc_mem {v v' : Visit World Input} (h : v ∈ visits ++ [v']) : v ∈ visits ∨ v = v' := by
  rcases List.mem_append.mp h with h | h
  · exact .inl h
  · exact .inr (List.mem_singleton.mp h)

/-- **A prepared lease is on its journey.**  What the visits were for it is what its
phase says. -/
theorem Run.journey (h : Run visits w) (hprepared : PreparedBy visits call lease) :
    ∃ p phase, w.calls[call]? = some p ∧ Journey lease p phase ∧
      Account visits call lease phase := by
  induction h with
  | nil =>
      obtain ⟨v, hv, -⟩ := hprepared
      exact absurd hv List.not_mem_nil
  | @snoc visits w i w' hrun hst ih =>
      have hsteps := Run.steps hrun hst
      by_cases hold : PreparedBy visits call lease
      · obtain ⟨p, phase, hp, hjourney, haccount⟩ := ih hold
        rcases hsteps.calls with
          ⟨call', go, q, q', d, rfl, hq, hturn, rfl⟩ | ⟨hother, -, started, hcalls, -⟩
        · by_cases heq : call' = call
          · -- The call itself moves.
            subst heq
            rw [hp] at hq
            cases hq
            exact ⟨q', _, List.getElem?_set_self (List.getElem?_eq_some_iff.mp hp).1,
              (hjourney.turn hturn).1, haccount.turn hjourney hp hturn⟩
          · exact ⟨p, phase, (List.getElem?_set_ne heq).trans hp, hjourney,
              haccount.other (beq_eq_false_iff_ne.mpr heq)⟩
        · refine ⟨p, phase, ?_, hjourney, haccount.other (turnOf_other hother call)⟩
          rw [hcalls, List.getElem?_append_left (List.getElem?_eq_some_iff.mp hp).1, hp]
      · -- This visit makes the call.
        obtain ⟨v, hv, hinput, hlen⟩ := hprepared
        rcases snoc_mem hv with hv | rfl
        · exact absurd ⟨v, hv, hinput, hlen⟩ hold
        · have hinput' : i = .prepare false (some lease) := hinput
          have hlen' : w.calls.length = call := hlen
          subst hinput' hlen'
          have hnew :=
            (Run.overflow hrun w.calls.length).1 (.inl (List.getElem?_eq_none (Nat.le_refl _)))
          cases hsteps with
          | prepare _ =>
              exact ⟨_, .unclaimed, List.getElem?_concat_length, .acquire,
                (Account.fresh hnew).other (turnOf_other (by simp) _)⟩
          | withoutLease hlease => rcases hlease with hbinary | hnone <;> contradiction

/-! ## Clients -/

/-- There is a prepared or a claimed lease, or one that is being dropped.  The lease
is made as soon as its client is admitted. -/
def Point.holdsLease : Point → Bool
  | .duplicate lease | .prepared lease | .claimed lease => lease.isSome
  | .dropPrepared .. | .leave (.keepalive ..) | .leave (.done .unclaimed)
  | .leave (.done (.prepareFailed _)) => true
  | _ => false

/-- An admission is in progress: of a frame that is not prepared yet, of a guard that
is made, or of an abandonment that is sent. -/
def Point.admits : Point → Bool
  | .recheck _ | .withdraw _ | .admitted _ | .dispatch .. => true
  | .leave (.done .guardCreated) | .leave (.done (.guardRefused _))
  | .leave (.done .abandonmentSent) | .leave (.done .abandonmentInert)
  | .leave (.done .released) => true
  | _ => false

theorem Point.counted_split (p : Point) :
    p.stage.counted.toNat = p.holdsLease.toNat + p.admits.toNat := by
  cases p with
  | leave after =>
      cases after with
      | done result => cases result <;> rfl
      | keepalive lease retire => rfl
  | duplicate lease => cases lease <;> rfl
  | prepared lease => cases lease <;> rfl
  | claimed lease => cases lease <;> rfl
  | joinUnlock taken => cases taken <;> rfl
  | closed result =>
      cases result with
      | ok _ => rfl
      | error error => cases error <;> rfl
  | _ => rfl

theorem countP_split {α : Type} {f g k : α → Bool}
    (h : ∀ a, (f a).toNat = (g a).toNat + (k a).toNat) (l : List α) :
    l.countP f = l.countP g + l.countP k := by
  induction l with
  | nil => rfl
  | cons a l ih =>
      have ha := h a
      simp only [List.countP_cons]
      cases hf : f a <;> cases hg : g a <;> cases hk : k a <;> simp [hf, hg, hk] at ha ⊢ <;> omega

/-- **`active_clients` counts leases and admissions.** -/
theorem Run.active_clients (h : Run visits w) :
    w.dispatcher.activeClients = w.calls.countP Point.holdsLease + w.calls.countP Point.admits := by
  have hclients := h.sound.2.clients
  rw [hclients, World.stages, List.countP_map]
  exact countP_split (fun p => p.counted_split) w.calls

end VideoInterop.Dispatcher
