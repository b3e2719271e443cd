import VideoInterop.Dispatcher.Guards

/-!
# Abandonments

When the last reference to a guard is gone its destructor runs once, and it calls
`dispatch_abandoned` with the command of the guard.  The call sends the command once,
or it finds the dispatcher closing and sends nothing.  No other call sends an
abandonment.
-/

namespace VideoInterop.Dispatcher

variable {d d' : ReleaseDispatcher} {p p' : Point} {go : Bool} {w w' : World} {i : Input}
  {visits : List (Visit World Input)} {call g : Nat} {command : DispatchCommand}

/-! ## Calls that stay on their course -/

/-- What the turns of a call preserve, together with the commands it has dispatched, holds
of the call in every run. -/
theorem Run.course {Course : Point → List DispatchCommand → Prop}
    (hcourse : ∀ {d d' go p p' sent}, Course p sent → turn d go p = some (.next d' p') →
      Course p' (sent ++ (p.sends.bind WorkerCommand.command).toList))
    (h : Run visits w) {v : Visit World Input} (hv : v ∈ visits)
    (hstart : v.post.calls = v.pre.calls ++ [p]) (hp : Course p []) :
    ∃ p, w.calls[v.pre.calls.length]? = some p ∧
      Course p (visits.filterMap (dispatchedBy v.pre.calls.length)) := by
  induction h with
  | nil => cases hv
  | @snoc visits w i w' hrun hst ih =>
      have hsteps := Run.steps hrun hst
      rw [List.filterMap_append, filterMap_one]
      rcases snoc_mem hv with hold | rfl
      · obtain ⟨q, hq, hsent⟩ := ih hold
        have hlt := (List.getElem?_eq_some_iff.mp hq).1
        rcases hsteps.calls with
          ⟨call, go, r, r', d, rfl, hr, hturn, rfl⟩ | ⟨hother, -, started, hcalls, -⟩
        · by_cases heq : call = v.pre.calls.length
          · subst heq
            rw [hq] at hr
            cases hr
            refine ⟨r', List.getElem?_set_self hlt, ?_⟩
            have hone : dispatchedBy v.pre.calls.length ⟨w, .turn v.pre.calls.length go,
                { w with dispatcher := d, calls := w.calls.set v.pre.calls.length r' }⟩ =
                  q.sends.bind WorkerCommand.command := by
              simp [dispatchedBy, turnOf, dispatchedIn, enqueuedIn, pointIn_turn hq]
            rw [hone]
            exact hcourse hsent hturn
          · refine ⟨q, (List.getElem?_set_ne heq).trans hq, ?_⟩
            simpa [dispatchedBy, turnOf, heq] using hsent
        · refine ⟨q, by rw [hcalls, List.getElem?_append_left hlt, hq], ?_⟩
          rw [dispatchedBy, turnOf_other hother]
          simpa using hsent
      · -- The call starts.
        have hcalls : w'.calls = w.calls ++ [p] := hstart
        refine ⟨p, by rw [hcalls]; exact List.getElem?_concat_length, ?_⟩
        have hnew := (Run.overflow hrun w.calls.length).1
          (.inl (List.getElem?_eq_none (Nat.le_refl _)))
        have hnone : visits.filterMap (dispatchedBy w.calls.length) = [] := by
          refine List.filterMap_eq_nil_iff.mpr fun u hu => ?_
          simp [dispatchedBy, hnew u hu]
        rcases hsteps.calls with ⟨call, go, r, r', d, rfl, hr, hturn, rfl⟩ | ⟨hother, -⟩
        · have hlength := congrArg List.length hcalls
          simp at hlength
        · rw [hnone, dispatchedBy, turnOf_other hother]
          simpa using hp

/-! ## Calls of `dispatch_abandoned` -/

/-- The points of a call of `dispatch_abandoned`, and what it has sent. -/
inductive Errand (command : DispatchCommand) : Point → List DispatchCommand → Prop where
  | acquire : Errand command (.acquire (.abandoned command)) []
  | enter : Errand command (.enter (.abandoned command)) []
  | recheck : Errand command (.recheck (.abandoned command)) []
  | withdraw : Errand command (.withdraw (.abandoned command)) []
  | refused : Errand command (.refused (.abandoned command)) []
  | inert : Errand command .inert []
  | dispatch : Errand command (.dispatch command (.done .abandonmentSent)) []
  | leave : Errand command (.leave (.done .abandonmentSent)) [command]
  | done : Errand command (.returned .abandonmentSent) [command]
  | stale : Errand command (.returned .abandonmentInert) []

theorem Errand.turn {sent : List DispatchCommand} (h : Errand command p sent)
    (hturn : turn d go p = some (.next d' p')) :
    Errand command p' (sent ++ (p.sends.bind WorkerCommand.command).toList) := by
  cases h with
  | acquire =>
      simp only [Dispatcher.turn, Option.some.injEq] at hturn
      split at hturn <;> cases hturn
      · exact .enter
      · exact .refused
  | enter =>
      cases hturn
      exact .recheck
  | recheck =>
      simp only [Dispatcher.turn, Option.some.injEq] at hturn
      split at hturn <;> cases hturn
      · exact .dispatch
      · exact .withdraw
  | withdraw =>
      simp only [Dispatcher.turn, releaseClient, Option.some.injEq] at hturn
      split at hturn <;> cases hturn
      exact .refused
  | refused =>
      cases hturn
      exact .inert
  | inert =>
      simp only [Dispatcher.turn, Option.some.injEq] at hturn
      split at hturn <;> cases hturn
      exact .stale
  | dispatch =>
      simp only [Dispatcher.turn] at hturn
      split at hturn <;> cases hturn
      exact .leave
  | leave =>
      simp only [Dispatcher.turn, releaseClient, Option.some.injEq] at hturn
      split at hturn <;> cases hturn
      exact .done
  | done => cases hturn
  | stale => cases hturn

/-- A visit is the destructor of a guard. -/
def destroysIn (g : Nat) (v : Visit World Input) : Bool :=
  match v.input with
  | .destroy g' => g' == g
  | _ => false

/-- The call was made by the destructor of a guard, with the command of the guard. -/
def ErrandOf (visits : List (Visit World Input)) (call g : Nat) (command : DispatchCommand) :
    Prop :=
  ∃ v ∈ visits, destroysIn g v = true ∧ v.pre.calls.length = call ∧
    v.pre.dispatcher.guards[g]? = some ⟨some command, 0, 0⟩

theorem destroysIn_eq {v : Visit World Input} (h : destroysIn g v = true) :
    v.input = .destroy g := by
  unfold destroysIn at h
  split at h
  · next g' hinput => rw [hinput, beq_iff_eq.mp h]
  · cases h

/-- A call of `dispatch_abandoned` is on its errand. -/
theorem Run.errand (h : Run visits w) (hof : ErrandOf visits call g command) :
    ∃ p, w.calls[call]? = some p ∧ Errand command p (visits.filterMap (dispatchedBy call)) := by
  obtain ⟨v, hv, hdestroys, rfl, hguard⟩ := hof
  obtain ⟨before, after, -, hbefore, hst, -⟩ := Path.mem_split h hv
  have hstart : v.post.calls = v.pre.calls ++ [.acquire (.abandoned command)] := by
    rw [destroysIn_eq hdestroys] at hst
    simp only [step, hguard] at hst
    split at hst
    · cases hst
    · rw [← Option.some.inj hst]
  exact h.course (fun hcourse hturn => hcourse.turn hturn) hv hstart .acquire

theorem ErrandOf.later {v : Visit World Input} (h : ErrandOf visits call g command) :
    ErrandOf (visits ++ [v]) call g command := by
  obtain ⟨u, hu, hrest⟩ := h
  exact ⟨u, List.mem_append_left _ hu, hrest⟩

/-- Only the destructor of a guard has an abandonment to send. -/
theorem Run.errands (h : Run visits w) (hp : w.calls[call]? = some p)
    (hcarries : p.carries = some (.abandoned command)) : ∃ g, ErrandOf visits call g command := by
  induction h generalizing p with
  | nil => cases hp
  | @snoc visits w i w' hrun hst ih =>
      -- A call that starts without an abandonment.
      have started {q : Point} (hq : q.carries ≠ some (.abandoned command))
          (hget : (w.calls ++ [q])[call]? = some p) :
          ∃ g, ErrandOf (visits ++ [⟨w, i, w'⟩]) call g command := by
        rw [List.getElem?_append] at hget
        split at hget
        · obtain ⟨g, hof⟩ := ih hget hcarries
          exact ⟨g, hof.later⟩
        · obtain rfl := List.mem_singleton.mp (List.mem_of_getElem? hget)
          exact absurd hcarries hq
      have kept (hget : w.calls[call]? = some p) :
          ∃ g, ErrandOf (visits ++ [⟨w, i, w'⟩]) call g command := by
        obtain ⟨g, hof⟩ := ih hget hcarries
        exact ⟨g, hof.later⟩
      cases Run.steps hrun hst with
      | newGuard => exact started (by simp [Point.carries]) hp
      | prepare _ => exact started (by simp [Point.carries]) hp
      | @withoutLease binary lease hnone =>
          refine started ?_ hp
          rcases hnone with rfl | rfl
          · cases lease <;> simp [prepareCloexec, Point.carries]
          · cases binary <;> simp [prepareCloexec, Point.carries]
      | closeAndJoin => exact started (by simp [Point.carries]) hp
      | @turn call' go q q' d hq hturn =>
          by_cases heq : call' = call
          · subst heq
            have hset : (w.calls.set call' q')[call']? = some p := hp
            rw [List.getElem?_set_self (List.getElem?_eq_some_iff.mp hq).1] at hset
            cases hset
            obtain ⟨g, hof⟩ := ih hq (turn_carries hturn hcarries)
            exact ⟨g, hof.later⟩
          · have hset : (w.calls.set call' q')[call]? = some p := hp
            rw [List.getElem?_set_ne heq] at hset
            exact kept hset
      | work _ => exact kept hp
      | copyTerm _ _ => exact kept hp
      | dropTerm _ _ => exact kept hp
      | @destroy g command' hguard =>
          have hget : (w.calls ++ [Point.acquire (.abandoned command')])[call]? = some p := hp
          rw [List.getElem?_append] at hget
          split at hget
          · exact kept hget
          · next hlt =>
              have hlt' := (List.getElem?_eq_some_iff.mp hget).1
              simp only [List.length_singleton] at hlt'
              obtain rfl := List.mem_singleton.mp (List.mem_of_getElem? hget)
              cases hcarries
              exact ⟨g, ⟨w, .destroy g, _⟩, List.mem_append_right _ (List.mem_singleton_self _),
                beq_self_eq_true g, by show w.calls.length = call; omega, hguard⟩

/-! ## One errand for each guard -/

/-- The command of a guard was taken. -/
def AbandonmentGuard.spent (guard : AbandonmentGuard) : Bool := guard.command.isNone

/-- A turn leaves the commands of the guards there are, and a new guard has one. -/
theorem Guards.spent {guards guards' : List AbandonmentGuard} (h : Guards guards p guards' p') :
    (guards'[g]?).any AbandonmentGuard.spent = (guards[g]?).any AbandonmentGuard.spent := by
  cases h with
  | same _ _ => rfl
  | @make _ command _ _ _ =>
      rw [List.getElem?_append]
      split
      · rfl
      · next hlt =>
          rw [List.getElem?_eq_none (Nat.le_of_not_lt hlt)]
          cases hget : [(⟨some command, 1, 0⟩ : AbandonmentGuard)][g - guards.length]? with
          | none => rfl
          | some guard =>
              rw [List.mem_singleton.mp (List.mem_of_getElem? hget)]
              rfl
  | @unkeep _ kept _ _ _ _ _ hguards =>
      rw [hguards g, Option.any_map]
      congr 1
      funext guard
      by_cases hkept : kept.abandonmentGuard = some g <;>
        simp [hkept, AbandonmentGuard.spent]

/-- The command of a guard is taken once, by its destructor. -/
theorem Run.destroyed (h : Run visits w) (g : Nat) :
    visits.countP (destroysIn g) =
      ((w.dispatcher.guards[g]?).any AbandonmentGuard.spent).toNat := by
  induction h with
  | nil => rfl
  | @snoc visits w i w' hrun hst ih =>
      rw [List.countP_append, List.countP_singleton, ih]
      -- What leaves the commands where they are.
      have keeps {f : AbandonmentGuard → AbandonmentGuard} (o : Option Nat)
          (hf : ∀ guard, (f guard).command = guard.command) :
          ((w.dispatcher.guards[g]?).any AbandonmentGuard.spent).toNat =
            (((w.dispatcher.mapGuard o f).guards[g]?).any AbandonmentGuard.spent).toNat := by
        refine congrArg Bool.toNat (Eq.symm ?_)
        rw [mapGuard_get, Option.any_map]
        congr 1
        funext guard
        by_cases ho : o = some g <;> simp [ho, AbandonmentGuard.spent, hf]
      cases Run.steps hrun hst with
      | newGuard => rfl
      | prepare _ =>
          refine (Nat.add_zero _).trans (keeps _ ?_)
          exact fun _ => rfl
      | withoutLease _ => rfl
      | closeAndJoin => rfl
      | turn hp hturn => exact (congrArg Bool.toNat (turn_guards hturn).spent).symm
      | work hwork =>
          have hsame : ∀ {d}, Works w.dispatcher d → d.guards = w.dispatcher.guards :=
            fun hworks => by cases hworks <;> rfl
          show _ = Bool.toNat ((ReleaseDispatcher.guards _)[g]?.any _)
          rw [hsame (work_works hwork)]
          rfl
      | copyTerm _ _ =>
          refine (Nat.add_zero _).trans (keeps _ ?_)
          exact fun _ => rfl
      | dropTerm _ _ =>
          refine (Nat.add_zero _).trans (keeps _ ?_)
          exact fun _ => rfl
      | @destroy g' command hguard =>
          by_cases heq : g' = g
          · subst heq
            simp [destroysIn, mapGuard_get, hguard, AbandonmentGuard.spent]
          · have hkeep : ((w.dispatcher.mapGuard (some g') fun guard =>
                { guard with command := none }).guards[g]?).any AbandonmentGuard.spent =
                (w.dispatcher.guards[g]?).any AbandonmentGuard.spent := by
              rw [mapGuard_get, Option.any_map]
              congr 1
              funext guard
              simp [heq]
            show _ + (if (g' == g) = true then 1 else 0) = Bool.toNat (Option.any _ _)
            rw [hkeep, if_neg (by simpa using heq), Nat.add_zero]

/-- A guard has one errand. -/
theorem Run.errand_unique (h : Run visits w) {call' : Nat} {command' : DispatchCommand}
    (hof : ErrandOf visits call g command) (hof' : ErrandOf visits call' g command') :
    call = call' ∧ command = command' := by
  obtain ⟨v, hv, hdestroys, rfl, hguard⟩ := hof
  obtain ⟨v', hv', hdestroys', rfl, hguard'⟩ := hof'
  have hle : (visits.filter (destroysIn g)).length ≤ 1 := by
    rw [← List.countP_eq_length_filter, h.destroyed g]
    exact Bool.toNat_le _
  have hmem := List.mem_filter.mpr ⟨hv, hdestroys⟩
  have hmem' := List.mem_filter.mpr ⟨hv', hdestroys'⟩
  have hsame : v = v' := by
    cases hfilter : visits.filter (destroysIn g) with
    | nil =>
        rw [hfilter] at hmem
        cases hmem
    | cons u rest =>
        rw [hfilter] at hmem hmem' hle
        obtain rfl := List.length_eq_zero_iff.mp (Nat.le_zero.mp (Nat.le_of_succ_le_succ hle))
        rw [List.mem_singleton.mp hmem, List.mem_singleton.mp hmem']
  subst hsame
  rw [hguard] at hguard'
  cases hguard'
  exact ⟨rfl, rfl⟩

/-- **A guard sends its abandonment at most once**, and only after its last reference
is gone.  Each abandonment is dispatched by the call that the destructor of a guard made,
with the command the guard was created with; the guard has no references then, and no
other errand.  The call is through with nothing sent only when it found the dispatcher
closing.  What a turn dispatches is what it puts into the queue, and the worker handles
that in order. -/
theorem abandonment_linear (h : Run visits w) :
    (∀ v ∈ visits, ∀ command, dispatchedIn v = some command → command.kind = .abandoned →
      ∃ call g guard, ErrandOf visits call g command ∧ dispatchedBy call v = some command ∧
        (visits.filterMap guardIn)[g]? = some command ∧
        v.pre.dispatcher.guards[g]? = some guard ∧ guard.terms = 0 ∧ guard.kept = 0) ∧
    (∀ call call' g command command', ErrandOf visits call g command →
      ErrandOf visits call' g command' → call = call' ∧ command = command') ∧
    (∀ call g command, ErrandOf visits call g command →
      (visits.filterMap (dispatchedBy call) = [] ∨
        visits.filterMap (dispatchedBy call) = [command]) ∧
      ∀ result, w.calls[call]? = some (.returned result) →
        result = .abandonmentSent ∧ visits.filterMap (dispatchedBy call) = [command] ∨
        result = .abandonmentInert ∧ visits.filterMap (dispatchedBy call) = []) ∧
    (∀ v ∈ visits, ∀ call go, v.input = .turn call go →
      v.post.dispatcher.queue = v.pre.dispatcher.queue ++ (enqueuedIn v).toList) ∧
    visits.filterMap dispatchedIn = visits.filterMap handledIn ++ w.dispatcher.pending := by
  refine ⟨fun v hv command hsent hkind => ?_,
    fun call call' g command command' hof hof' => h.errand_unique hof hof',
    fun call g command hof => ?_, fun v hv call go hinput => h.enqueues hv hinput, h.dispatched⟩
  · obtain ⟨before, after, rfl, hbefore, hst, -⟩ := Path.mem_split h hv
    have hrun : Run before v.pre := hbefore
    obtain ⟨call, go, p, p', d, hinput, hp, hturn, hpost, hsends⟩ :=
      (Run.steps hrun hst).dispatched
        (show dispatchedIn ⟨v.pre, v.input, v.post⟩ = some command from hsent)
    rcases sends_cases hsends with hcarries | ⟨lease, rfl, rfl⟩
    · obtain ⟨g, u, hu, hdestroys, hlen, hguard⟩ := hrun.errands hp hcarries
      -- The guard it was made for is spent.
      have hspent : ∃ guard, v.pre.dispatcher.guards[g]? = some guard ∧ guard.command = none := by
        have hpos : 0 < before.countP (destroysIn g) := List.countP_pos_iff.mpr ⟨u, hu, hdestroys⟩
        rw [hrun.destroyed g] at hpos
        cases hget : v.pre.dispatcher.guards[g]? with
        | none => simp [hget] at hpos
        | some guard =>
            refine ⟨guard, rfl, ?_⟩
            cases hcommand : guard.command with
            | none => rfl
            | some c => simp [hget, AbandonmentGuard.spent, hcommand] at hpos
      obtain ⟨guard, hget, hnone⟩ := hspent
      obtain ⟨hterms, hkept⟩ := hrun.guarded.gone hget hnone
      refine ⟨call, g, guard, ⟨u, List.mem_append_left _ hu, hdestroys, hlen, hguard⟩, ?_, ?_,
        hget, hterms, hkept⟩
      · simp [dispatchedBy, turnOf, hinput, hsent]
      · -- It was made with the command it was destroyed with.
        obtain ⟨first, later, rfl, hfirst, -, -⟩ := Path.mem_split hrun hu
        have hrun' : Run first u.pre := hfirst
        rcases hrun'.guarded.command g _ hguard with hmade | ⟨hnone', -⟩
        · have hlt := (List.getElem?_eq_some_iff.mp hmade.symm).1
          simp only [List.append_assoc, List.filterMap_append]
          rw [List.getElem?_append_left hlt, ← hmade]
        · cases hnone'
    · cases hkind
  · obtain ⟨p, hp, herrand⟩ := h.errand hof
    refine ⟨?_, fun result hresult => ?_⟩
    · generalize visits.filterMap (dispatchedBy call) = sent at herrand
      cases herrand <;> simp
    · rw [hp] at hresult
      cases hresult
      generalize visits.filterMap (dispatchedBy call) = sent at herrand
      cases herrand with
      | done => exact .inl ⟨rfl, rfl⟩
      | stale => exact .inr ⟨rfl, rfl⟩

/-- A frame is prepared, claimed and retired.  Then its holder's term is gone, and the
guard sends the abandonment. -/
def retirementInputs : List Input :=
  .newGuard 1000 (.reference 20) 21 :: List.replicate 5 (Input.turn 0 true) ++
    .prepare false (some ⟨1000, .reference 20, 21, some 0⟩) ::
      List.replicate 9 (Input.turn 1 true) ++
    .dropTerm 0 :: .destroy 0 :: List.replicate 5 (Input.turn 2 true) ++
    List.replicate 4 (Input.work true)

theorem abandonment_linear_sample : ∃ visits w, Run visits w ∧
    visits.filterMap (dispatchedBy 2) = [⟨.abandoned, 1000, .reference 20, 21⟩] := by
  have hsome : (perform retirementInputs).isSome = true := rfl
  have hrun : Run ((perform retirementInputs).get rfl).1 ((perform retirementInputs).get rfl).2 :=
    perform_run hsome
  have hof : ErrandOf ((perform retirementInputs).get rfl).1 2 0
      ⟨.abandoned, 1000, .reference 20, 21⟩ :=
    ⟨((perform retirementInputs).get rfl).1.get ⟨17, by decide⟩, List.get_mem _ _, rfl, rfl, rfl⟩
  rcases ((abandonment_linear hrun).2.2.1 2 0 _ hof).2 .abandonmentSent rfl with
    ⟨-, hsent⟩ | ⟨hinert, -⟩
  · exact ⟨_, _, hrun, hsent⟩
  · cases hinert

end VideoInterop.Dispatcher
