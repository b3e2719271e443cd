import VideoInterop.LeaseOwner.Refinement

/-!
# Histories of one owner

What a run accepted, queued, sent to an executor and ended is read off its
visits: the events, the states before them and the messages sent.  The deeds of
the ledger are the same history, so the results about ledgers hold of runs.
-/

namespace VideoInterop.LeaseOwner

/-! ## Reading a visit -/

/-- The lease and the backend token the visit accepted. -/
def acceptedIn (v : Visit Owner Input) : Option (Ref × Term) :=
  acceptedBy v.input.env v.pre.state v.input.event

/-- The attempt the visit ended. -/
def closedIn (v : Visit Owner Input) : Option Closing := endedBy v.pre.state v.input.event

/-- The lease whose release succeeded in the visit. -/
def releasedIn (v : Visit Owner Input) : Option (Ref × Term) :=
  (closedIn v).bind Closing.released

/-- The attempts the visit sent to an executor. -/
def executedIn (v : Visit Owner Input) : List (Pid × Ref × Attempt) :=
  v.post.state.sent.filterMap Signal.execution

/-- The attempts the visit queued: the jobs whose generation it made. -/
def enqueuedIn (v : Visit Owner Input) : List (Ref × Attempt) :=
  (serialQueue v.post.state).jobs.filter fun job => job.2.1 = v.input.env.generation

/-! ## What every reachable owner keeps -/

/-- The invariant of an owner and the supply of identifiers. -/
structure Owner.Sound (o : Owner) : Prop where
  /-- The leases agree with the queue. -/
  coupled : Coupled o.state
  /-- There is no more than the capacity. -/
  within : o.state.ledger.Within
  /-- Every token was made before. -/
  token : ∀ x ∈ o.state.ledger.books, x.1 < o.supply
  /-- Every generation was made before. -/
  generation : ∀ job ∈ (serialQueue o.state).jobs, job.2.1 < o.supply

/-- The deeds of some visits. -/
structure Chronicle (visits : List (Visit Owner Input)) (deeds : List Deed) : Prop where
  /-- The deeds accept the backend tokens the visits accept. -/
  accepted : deeds.filterMap Deed.accepted = visits.filterMap acceptedIn
  /-- They close the attempts the visits end. -/
  closed : deeds.filterMap Deed.closed = visits.filterMap closedIn
  /-- They execute what the visits send to an executor. -/
  executed : deeds.filterMap Deed.executed = visits.flatMap executedIn
  /-- They enqueue what the visits put into the queue. -/
  enqueued : deeds.filterMap Deed.enqueued = visits.flatMap enqueuedIn

theorem mem_books {L : Ledger} {token : Ref} {backendToken : Term} :
    (token, backendToken) ∈ L.books ↔
      ∃ entry, L.leases.fetch token = some entry ∧ entry.backendToken = backendToken := by
  rw [Ledger.books, Multiset.mem_coe, List.mem_map]
  constructor
  · rintro ⟨⟨t, entry⟩, hmem, heq⟩
    cases heq
    exact ⟨entry, FMap.mem_entries.mp hmem, rfl⟩
  · rintro ⟨entry, hentry, rfl⟩
    exact ⟨(token, entry), FMap.mem_entries.mpr hentry, rfl⟩

/-- The jobs after some deeds, and those that ended, are the jobs before and
those queued. -/
theorem Ledger.jobs_trace {L L' : Ledger} {deeds : List Deed} (h : Trace Ledger.Step L deeds L') :
    (deeds.filterMap Deed.closed).map (fun c => c.attempt.2) ++ L'.queue.jobs =
      L.queue.jobs ++ deeds.filterMap Deed.enqueued := by
  have hone := congrArg (List.map Prod.snd) (one_at_a_time h)
  have hfifo := fifo h
  simp only [outstanding, List.map_append, List.map_map, Function.comp_def, List.map_id'] at hone
  rw [SerialQueue.jobs, SerialQueue.jobs, ← List.append_assoc, hone, List.append_assoc, hfifo,
    List.append_assoc]

theorem Owner.Init.sound {o : Owner} (h : Owner.Init o) : o.Sound := by
  have hb := h.blank
  have hq : serialQueue o.state = ⟨none, []⟩ := by
    simp [serialQueue, hb.releaseJob, hb.releaseQueue]
  refine ⟨hb.coupled, ?_, ?_, ?_⟩
  · intro n _
    simp [State.ledger, hb.leases, hb.issueReservations]
  · rintro ⟨token, backendToken⟩ hmem
    obtain ⟨entry, hentry, -⟩ := mem_books.mp hmem
    simp [State.ledger, hb.leases] at hentry
  · simp [hq, SerialQueue.jobs]

/-- What an accepted commit brings, under the token it is given. -/
theorem acceptedBy_token {env : Env} {s : State} {event : Event} {x : Ref × Term}
    (h : acceptedBy env s event = some x) : x.1 = env.token := by
  unfold acceptedBy at h
  split at h
  · split at h
    · split at h
      · cases h
        rfl
      · cases h
    · cases h
  · cases h

theorem Owner.Step.supply_le {o o' : Owner} {i : Input} (hst : Owner.Step o i o') :
    o.supply ≤ o'.supply := by
  have hfresh := hst.fresh
  have hnext : o'.supply = i.env.supply + 9 := hst.supply
  omega

/-- An identifier made in the callback is new before it and in use after it. -/
theorem Owner.Step.made {o o' : Owner} {i : Input} (hst : Owner.Step o i o')
    {k : Nat} (hk : k < 9) :
    o.supply ≤ i.env.supply + k ∧ i.env.supply + k < o'.supply := by
  have hfresh := hst.fresh
  have hnext : o'.supply = i.env.supply + 9 := hst.supply
  omega

/-- The token a callback makes is new. -/
theorem Owner.Sound.fresh {o o' : Owner} {i : Input} (h : o.Sound) (hst : Owner.Step o i o') :
    o.state.leases.fetch i.env.token = none := by
  refine Option.eq_none_iff_forall_ne_some.mpr fun entry hentry => ?_
  have hlt := h.token (i.env.token, entry.backendToken) (mem_books.mpr ⟨entry, hentry, rfl⟩)
  exact Nat.not_lt.mpr (hst.made (k := 2) (by omega)).1 hlt

/-- One step keeps the invariant and is a list of deeds. -/
theorem Owner.Sound.step {o o' : Owner} {i : Input} (h : o.Sound) (hst : Owner.Step o i o') :
    o'.Sound ∧ ∃ deeds, Trace Ledger.Step o.state.ledger deeds o'.state.ledger ∧
      Chronicle [⟨o, i, o'⟩] deeds := by
  have hcoupled : Coupled { o.state with sent := [] } := h.coupled.congr rfl rfl rfl
  have ht := outcome_transition o.state i
  obtain ⟨deeds, hposts, haccepted, hclosed⟩ := ht.accounts hcoupled (h.fresh hst) hst.live
  have htrace : Trace Ledger.Step o.state.ledger deeds o'.state.ledger := hposts.trace
  have hbooks := Ledger.books_trace htrace
  have hjobs := Ledger.jobs_trace htrace
  have hended : ∀ c ∈ deeds.filterMap Deed.closed, c.generation < o.supply := by
    intro c hc
    rw [hclosed, Option.mem_toList] at hc
    obtain ⟨job, -, hjob, -, hgeneration, -⟩ := endedBy_running hc
    have hrun : job.attempted ∈ (serialQueue o.state).jobs :=
      SerialQueue.mem_jobs.mpr (.inl (serialQueue_running hjob))
    rw [← hgeneration]
    exact h.generation _ hrun
  refine ⟨⟨hcoupled.step (h.fresh hst) ht hst.live, ?_, ?_, ?_⟩, deeds, htrace, ?_⟩
  · exact htrace.invariant (fun _ _ _ hw hst => hw.step hst) h.within
  · intro x hx
    have hmem := Multiset.mem_add.mp (hbooks ▸ Multiset.mem_add.mpr (.inl hx))
    rcases hmem with hold | hnew
    · exact Nat.lt_of_lt_of_le (h.token x hold) hst.supply_le
    · rw [Multiset.mem_coe, haccepted, Option.mem_toList] at hnew
      rw [acceptedBy_token hnew]
      exact (hst.made (k := 2) (by omega)).2
  · intro job hjob
    have hmem := List.mem_append.mp (hjobs ▸ List.mem_append.mpr (.inr hjob))
    rcases hmem with hold | hnew
    · exact Nat.lt_of_lt_of_le (h.generation job hold) hst.supply_le
    · rw [hposts.enqueued job hnew]
      exact (hst.made (k := 4) (by omega)).2
  · refine ⟨?_, ?_, ?_, ?_⟩
    · rw [haccepted, filterMap_one]
      rfl
    · rw [hclosed, filterMap_one]
      rfl
    · rw [List.flatMap_singleton]
      exact hposts.executed.symm
    · -- The jobs made here are the last of the jobs after the step; the others are older.
      rw [List.flatMap_singleton, enqueuedIn]
      have hfilter := congrArg (List.filter fun job : Ref × Attempt =>
        job.2.1 = i.env.generation) hjobs
      rw [List.filter_append, List.filter_append] at hfilter
      have hnone : ∀ jobs : List (Ref × Attempt), (∀ job ∈ jobs, job.2.1 < o.supply) →
          jobs.filter (fun job => job.2.1 = i.env.generation) = [] := by
        intro jobs hlt
        rw [List.filter_eq_nil_iff]
        intro job hjob heq
        have hge : o.supply ≤ i.env.generation := (hst.made (k := 4) (by omega)).1
        exact absurd (of_decide_eq_true heq) (Nat.ne_of_lt (Nat.lt_of_lt_of_le (hlt job hjob) hge))
      rw [hnone o.state.ledger.queue.jobs h.generation, List.nil_append, hnone, List.nil_append]
        at hfilter
      · rw [List.filter_eq_self.mpr fun job hjob => decide_eq_true (hposts.enqueued job hjob)]
          at hfilter
        exact hfilter.symm
      · intro job hjob
        obtain ⟨c, hc, rfl⟩ := List.mem_map.mp hjob
        exact hended c hc

/-! ## Runs -/

variable {o o' : Owner} {visits : List (Visit Owner Input)}

theorem path_supply_le (h : Path Owner.Step o visits o') : o.supply ≤ o'.supply :=
  h.rel (R := fun o o' => o.supply ≤ o'.supply) (fun _ => Nat.le_refl _) Nat.le_trans fun _ _ _ =>
    Owner.Step.supply_le

/-- Some steps keep the invariant and are a list of deeds. -/
theorem Owner.Sound.path (hs : o.Sound) (h : Path Owner.Step o visits o') :
    o'.Sound ∧ ∃ deeds, Trace Ledger.Step o.state.ledger deeds o'.state.ledger ∧
      Chronicle visits deeds := by
  induction h with
  | nil => exact ⟨hs, [], .nil, ⟨rfl, rfl, rfl, rfl⟩⟩
  | @snoc visits o₁ i o₂ _ hst ih =>
      obtain ⟨hs₁, deeds, htrace, hc⟩ := ih
      obtain ⟨hs₂, deeds', htrace', hc'⟩ := hs₁.step hst
      refine ⟨hs₂, deeds ++ deeds', htrace.append htrace', ⟨?_, ?_, ?_, ?_⟩⟩
      · rw [List.filterMap_append, List.filterMap_append, hc.accepted, hc'.accepted]
      · rw [List.filterMap_append, List.filterMap_append, hc.closed, hc'.closed]
      · rw [List.filterMap_append, List.flatMap_append, hc.executed, hc'.executed]
      · rw [List.filterMap_append, List.flatMap_append, hc.enqueued, hc'.enqueued]

theorem Owner.Run.sound (h : Owner.Run visits o) : o.Sound :=
  h.invariant (fun _ hinit => hinit.sound) fun _ _ _ hs hst => (hs.step hst).1

theorem Owner.Reachable.sound (h : Owner.Reachable o) : o.Sound :=
  h.choose_spec.sound

/-- The deeds of a whole run start from an empty ledger. -/
theorem Owner.Run.chronicle (h : Owner.Run visits o) :
    ∃ L deeds, L.books = 0 ∧ L.queue = ⟨none, []⟩ ∧ Trace Ledger.Step L deeds o.state.ledger ∧
      Chronicle visits deeds := by
  obtain ⟨o₀, hinit, hpath⟩ := h
  obtain ⟨-, deeds, htrace, hc⟩ := hinit.sound.path hpath
  have hb := hinit.blank
  refine ⟨o₀.state.ledger, deeds, ?_, ?_, htrace, hc⟩
  · rw [Ledger.books, State.ledger, hb.leases]
    rfl
  · simp [State.ledger, serialQueue, hb.releaseJob, hb.releaseQueue]

/-- What a run accepted is in the leases or was released. -/
theorem Owner.Run.books (h : Owner.Run visits o) :
    (visits.filterMap acceptedIn : Multiset (Ref × Term)) =
      o.state.ledger.books + (visits.filterMap releasedIn : List (Ref × Term)) := by
  obtain ⟨L, deeds, hL, -, htrace, hc⟩ := h.chronicle
  have hbooks := Ledger.books_trace htrace
  rw [hL, zero_add, ← List.filterMap_filterMap, hc.closed, hc.accepted, List.filterMap_filterMap]
    at hbooks
  exact hbooks.symm

/-- The tokens a run accepts are all different. -/
theorem Owner.Run.accepted_nodup (h : Owner.Run visits o) :
    ((visits.filterMap acceptedIn).map Prod.fst).Nodup ∧
      ∀ x ∈ visits.filterMap acceptedIn, x.1 < o.supply := by
  refine h.history (P := fun visits o => ((visits.filterMap acceptedIn).map Prod.fst).Nodup ∧
    ∀ x ∈ visits.filterMap acceptedIn, x.1 < o.supply) (fun _ _ => by simp) ?_
  intro visits o i o' hrun ih hst
  obtain ⟨hnodup, hlt⟩ := ih
  rw [List.filterMap_append, filterMap_one, List.map_append]
  cases hx : acceptedIn ⟨o, i, o'⟩ with
  | none =>
      simp only [Option.toList, List.map_nil, List.append_nil]
      exact ⟨hnodup, fun x hx => Nat.lt_of_lt_of_le (hlt x hx) hst.supply_le⟩
  | some x =>
      have htoken : x.1 = i.env.token := acceptedBy_token hx
      have hmade := hst.made (k := 2) (by omega)
      refine ⟨?_, ?_⟩
      · rw [List.nodup_append]
        refine ⟨hnodup, by simp, fun a ha b hb => ?_⟩
        obtain ⟨y, hy, rfl⟩ := List.mem_map.mp ha
        simp only [Option.toList, List.map_cons, List.map_nil, List.mem_singleton] at hb
        rw [hb, htoken]
        exact Nat.ne_of_lt (Nat.lt_of_lt_of_le (hlt y hy) hmade.1)
      · intro y hy
        rcases List.mem_append.mp hy with hy | hy
        · exact Nat.lt_of_lt_of_le (hlt y hy) hst.supply_le
        · simp only [Option.toList, List.mem_singleton] at hy
          rw [hy, htoken]
          exact hmade.2

end VideoInterop.LeaseOwner
