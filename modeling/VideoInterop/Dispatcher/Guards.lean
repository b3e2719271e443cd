import VideoInterop.Dispatcher.Leases

/-!
# Guards of lease holders

The guard of a holder is a resource with two kinds of references: terms, and the calls
of `prepare_cloexec` that keep it with their lease.  When there are none left the
destructor sends the abandonment.

`Guarded` is the invariant: what is kept is what the points of the calls say, and an
abandonment comes from a guard that was destroyed.  A call keeps the guard of its lease
from the start and gives it up after the release was sent.  So the destructor runs
later, and the abandonment comes behind the release.
-/

namespace VideoInterop.Dispatcher

variable {d d' : ReleaseDispatcher} {p p' : Point} {go : Bool} {w w' : World} {i : Input}
  {visits : List (Visit World Input)} {call : Nat} {lease : Lease} {phase : Phase}

/-! ## What calls keep and carry -/

/-- The lease whose guard a call keeps. -/
def Point.lease? : Point → Option Lease
  | .acquire (.prepare lease) | .enter (.prepare lease) | .recheck (.prepare lease)
  | .withdraw (.prepare lease) | .refused (.prepare lease) | .dropPrepared lease _
  | .dispatch _ (.keepalive lease _) | .leave (.keepalive lease _) | .dropKeepalive lease _ =>
      some lease
  | .duplicate lease | .prepared lease | .claimed lease => lease
  | _ => none

/-- Does the call keep the guard? -/
def Point.keeps (g : Nat) (p : Point) : Bool := p.lease?.bind Lease.abandonmentGuard == some g

/-- The command of the guard that is made at a point. -/
def Point.makes : Point → Option DispatchCommand
  | .admitted command => some command
  | _ => none

/-- The command a call carries that prepares no frame: the one of the guard it makes, or
the abandonment it sends. -/
def Point.carries : Point → Option Use
  | .acquire (.prepare _) | .enter (.prepare _) | .recheck (.prepare _) | .withdraw (.prepare _)
  | .refused (.prepare _) => none
  | .acquire use | .enter use | .recheck use | .withdraw use | .refused use => some use
  | .admitted command => some (.guard command)
  | .dispatch command _ => some (.abandoned command)
  | _ => none

/-- The command of the guard a visit makes. -/
def guardIn (v : Visit World Input) : Option DispatchCommand := (pointIn v).bind Point.makes

/-- What a turn does to guards: nothing, or it makes one, or it gives one up. -/
inductive Guards (guards : List AbandonmentGuard) (p : Point) :
    List AbandonmentGuard → Point → Prop where
  | same {q} (hmakes : p.makes = none) (hlease : q.lease? = p.lease?) : Guards guards p guards q
  | make {q command} (hmakes : p.makes = some command) (hlease : p.lease? = none)
      (hlease' : q.lease? = none) : Guards guards p (guards ++ [⟨some command, 1, 0⟩]) q
  | unkeep {q kept guards'} (hmakes : p.makes = none) (hlease : p.lease? = some kept)
      (hlease' : q.lease? = none) (hlength : guards'.length = guards.length)
      (hguards : ∀ g, guards'[g]? = guards[g]?.map fun guard =>
        if kept.abandonmentGuard = some g then { guard with kept := guard.kept - 1 } else guard) :
      Guards guards p guards' q

theorem mapGuard_get (o : Option Nat) (f : AbandonmentGuard → AbandonmentGuard)
    (d : ReleaseDispatcher) (g : Nat) :
    (d.mapGuard o f).guards[g]? = d.guards[g]?.map fun guard =>
      if o = some g then f guard else guard := by
  cases o with
  | none =>
      show d.guards[g]? = _
      simp
  | some k =>
      show (d.guards.modify k f)[g]? = _
      rw [List.getElem?_modify]
      simp only [Option.some.injEq]
      rfl

theorem mapGuard_length (o : Option Nat) (f : AbandonmentGuard → AbandonmentGuard)
    (d : ReleaseDispatcher) : (d.mapGuard o f).guards.length = d.guards.length := by
  cases o with
  | none => rfl
  | some k => exact List.length_modify ..

theorem turn_guards (h : turn d go p = some (.next d' p')) :
    Guards d.guards p d'.guards p' := by
  have gives {lease : Lease} {q : Point} (hmakes : p.makes = none) (hlease : p.lease? = some lease)
      (hlease' : q.lease? = none) : Guards d.guards p (d.unkeep lease).guards q :=
    .unkeep hmakes hlease hlease' (mapGuard_length _ _ d) (mapGuard_get _ _ d)
  cases p with
  | refused use =>
      cases use with
      | prepare lease =>
          cases h
          exact gives rfl rfl rfl
      | _ =>
          cases h
          exact .same rfl rfl
  | dropPrepared lease result =>
      cases h
      exact gives rfl rfl rfl
  | dropKeepalive lease retire =>
      cases retire <;> cases h <;> exact gives rfl rfl rfl
  | admitted command =>
      cases h
      exact .make rfl rfl rfl
  | acquire use =>
      simp only [turn, Option.some.injEq] at h
      split at h <;> cases h <;> exact .same rfl (by cases use <;> rfl)
  | enter use =>
      cases h
      exact .same rfl (by cases use <;> rfl)
  | recheck use =>
      simp only [turn, Option.some.injEq] at h
      split at h <;> cases h <;> exact .same rfl (by cases use <;> rfl)
  | withdraw use =>
      simp only [turn, releaseClient, Option.some.injEq] at h
      split at h <;> cases h
      exact .same rfl (by cases use <;> rfl)
  | dispatch command after =>
      simp only [turn] at h
      rcases send_cases (.dispatch command) d with ⟨-, heq⟩ | ⟨-, heq⟩ <;> rw [heq] at h <;> cases h
      exact .same rfl (by cases after <;> rfl)
  | leave after =>
      simp only [turn, releaseClient, Option.some.injEq] at h
      split at h <;> cases h
      exact .same rfl (by cases after <;> rfl)
  | duplicate lease =>
      cases lease <;> simp only [turn] at h <;> split at h <;> cases h <;> exact .same rfl rfl
  | prepared lease =>
      cases lease <;> simp only [turn] at h <;> split at h <;> cases h <;> exact .same rfl rfl
  | claimed lease =>
      cases lease with
      | none =>
          cases h
          exact .same rfl rfl
      | some lease =>
          simp only [turn] at h
          rcases send_cases (.dispatch lease.release) d with ⟨-, heq⟩ | ⟨-, heq⟩ <;>
            rw [heq] at h <;> cases h
          exact .same rfl rfl
  | stopSend =>
      simp only [turn] at h
      rcases send_cases .stop d with ⟨-, heq⟩ | ⟨-, heq⟩ <;> rw [heq] at h <;> cases h
      exact .same rfl rfl
  | joinUnlock taken => cases taken <;> cases h <;> exact .same rfl rfl
  | _ =>
      simp only [turn, sleepUntilRetry, tryLock, unlock, Option.some.injEq] at h
      repeat' split at h
      all_goals cases h
      all_goals exact .same rfl rfl

theorem turn_carries (h : turn d go p = some (.next d' p')) {use : Use}
    (hcarries : p'.carries = some use) : p.carries = some use := by
  cases p with
  | acquire use =>
      simp only [turn, Option.some.injEq] at h
      split at h <;> cases h <;> cases use <;> exact hcarries
  | enter use =>
      cases h
      cases use <;> exact hcarries
  | recheck use =>
      simp only [turn, Option.some.injEq] at h
      split at h <;> cases h <;> cases use <;> exact hcarries
  | withdraw use =>
      simp only [turn, releaseClient, Option.some.injEq] at h
      split at h <;> cases h
      cases use <;> exact hcarries
  | refused use => cases use <;> cases h <;> cases hcarries
  | leave after =>
      simp only [turn, releaseClient, Option.some.injEq] at h
      split at h <;> cases h
      cases after <;> cases hcarries
  | duplicate lease =>
      cases lease <;> simp only [turn] at h <;> split at h <;> cases h <;> cases hcarries
  | prepared lease =>
      cases lease <;> simp only [turn] at h <;> split at h <;> cases h <;> cases hcarries
  | claimed lease =>
      cases lease with
      | none =>
          cases h
          cases hcarries
      | some lease =>
          simp only [turn] at h
          split at h <;> cases h
          cases hcarries
  | joinUnlock taken => cases taken <;> cases h <;> cases hcarries
  | dropKeepalive lease retire => cases retire <;> cases h <;> cases hcarries
  | _ =>
      -- What comes next carries nothing.
      simp only [turn, sleepUntilRetry, tryLock, unlock, Option.some.injEq] at h
      repeat' split at h
      all_goals cases h
      all_goals cases hcarries

/-- The guard of the command was destroyed. -/
def Destroyed (made : List DispatchCommand) (guards : List AbandonmentGuard)
    (command : DispatchCommand) : Prop :=
  ∃ (g : Nat) (guard : AbandonmentGuard), made[g]? = some command ∧
    guards[g]? = some guard ∧ guard.command = none

/-- A guard is made for an abandonment, and an abandonment comes from a guard that was
destroyed. -/
def Use.Accounted (made : List DispatchCommand) (guards : List AbandonmentGuard) : Use → Prop
  | .guard command => command.kind = .abandoned
  | .abandoned command => Destroyed made guards command
  | .prepare _ => True

/-- What the guards have to do with the calls.  A guard that was destroyed is not
referenced any more. -/
structure Guarded (made sent : List DispatchCommand) (guards : List AbandonmentGuard)
    (calls : List Point) : Prop where
  /-- Every guard was made. -/
  length : guards.length = made.length
  /-- A guard is kept by as many calls as it says. -/
  kept : ∀ (g : Nat) (guard : AbandonmentGuard),
    guards[g]? = some guard → guard.kept = calls.countP (Point.keeps g)
  /-- A guard that is kept is there. -/
  known : ∀ p ∈ calls, ∀ g : Nat, p.keeps g = true → g < guards.length
  /-- A guard has its command as long as it is referenced. -/
  command : ∀ (g : Nat) (guard : AbandonmentGuard), guards[g]? = some guard →
    guard.command = made[g]? ∨ (guard.command = none ∧ guard.terms = 0 ∧ guard.kept = 0)
  /-- What a call carries is accounted for. -/
  carries : ∀ p ∈ calls, ∀ use, p.carries = some use → use.Accounted made guards
  /-- An abandonment was sent by the destructor of its guard. -/
  sent : ∀ command ∈ sent, command.kind = .abandoned → Destroyed made guards command
  /-- Guards are made for abandonments. -/
  kind : ∀ command ∈ made, command.kind = .abandoned

variable {made sent : List DispatchCommand} {guards guards' : List AbandonmentGuard}
  {calls calls' : List Point} {command : DispatchCommand} {guard : AbandonmentGuard}

theorem Guarded.gone (h : Guarded made sent guards calls) {g : Nat}
    (hguard : guards[g]? = some guard)
    (hnone : guard.command = none) : guard.terms = 0 ∧ guard.kept = 0 := by
  rcases h.command g guard hguard with hmade | ⟨-, hgone⟩
  · have hlt := (List.getElem?_eq_some_iff.mp hguard).1
    rw [h.length] at hlt
    rw [hnone, List.getElem?_eq_getElem hlt] at hmade
    cases hmade
  · exact hgone

/-- A guard changes: its command can only go, when there are no references left. -/
structure Follows (guard guard' : AbandonmentGuard) : Prop where
  /-- The command stays or goes. -/
  command : guard'.command = guard.command ∨ guard'.command = none
  /-- A guard without a command is referenced no more. -/
  gone : guard'.command = none → guard'.terms = 0 ∧ guard'.kept = 0

theorem Destroyed.follow (h : Destroyed made guards command)
    (hguards : ∀ (g : Nat) (guard : AbandonmentGuard), guards[g]? = some guard →
      ∃ guard', guards'[g]? = some guard' ∧ Follows guard guard') :
    Destroyed made guards' command := by
  obtain ⟨g, guard, hmade, hguard, hnone⟩ := h
  obtain ⟨guard', hguard', hfollows⟩ := hguards g guard hguard
  refine ⟨g, guard', hmade, hguard', ?_⟩
  rcases hfollows.command with hsame | hnone'
  · exact hsame.trans hnone
  · exact hnone'

theorem Use.Accounted.follow {use : Use} (h : use.Accounted made guards)
    (hguards : ∀ (g : Nat) (guard : AbandonmentGuard), guards[g]? = some guard →
      ∃ guard', guards'[g]? = some guard' ∧ Follows guard guard') :
    use.Accounted made guards' := by
  cases use with
  | guard command => exact h
  | abandoned command => exact Destroyed.follow h hguards
  | prepare lease => trivial

/-- Calls and guards change, each guard as the calls that keep it. -/
theorem Guarded.change (h : Guarded made sent guards calls)
    (hlength : guards'.length = guards.length)
    (hguards : ∀ (g : Nat) (guard : AbandonmentGuard), guards[g]? = some guard → ∃ guard',
      guards'[g]? = some guard' ∧
      Follows guard guard' ∧ guard'.kept = calls'.countP (Point.keeps g))
    (hknown : ∀ p ∈ calls', ∀ g : Nat, p.keeps g = true → g < guards.length)
    (hcarries : ∀ p ∈ calls', ∀ use, p.carries = some use → use.Accounted made guards') :
    Guarded made sent guards' calls' := by
  have hback {g : Nat} {guard' : AbandonmentGuard} (hguard' : guards'[g]? = some guard') :
      ∃ guard, guards[g]? = some guard ∧ Follows guard guard' ∧
        guard'.kept = calls'.countP (Point.keeps g) := by
    have hlt := (List.getElem?_eq_some_iff.mp hguard').1
    rw [hlength] at hlt
    obtain ⟨guard'', hguard'', hfollows⟩ := hguards g _ (List.getElem?_eq_getElem hlt)
    rw [hguard'] at hguard''
    cases hguard''
    exact ⟨_, List.getElem?_eq_getElem hlt, hfollows⟩
  refine ⟨hlength.trans h.length, fun g guard' hguard' => ?_, fun p hp g hg => ?_,
    fun g guard' hguard' => ?_, hcarries, fun command hcommand hkind => ?_, h.kind⟩
  · obtain ⟨guard, -, -, hkept⟩ := hback hguard'
    exact hkept
  · rw [hlength]
    exact hknown p hp g hg
  · obtain ⟨guard, hguard, hfollows, -⟩ := hback hguard'
    cases hcommand : guard'.command with
    | none => exact .inr ⟨rfl, hfollows.gone hcommand⟩
    | some command =>
        rcases hfollows.command with hsame | hnone
        · rcases h.command g guard hguard with hmade | ⟨hnone, -⟩
          · exact .inl (hcommand.symm.trans (hsame.trans hmade))
          · rw [hsame, hnone] at hcommand
            cases hcommand
        · rw [hcommand] at hnone
          cases hnone
  · refine (h.sent command hcommand hkind).follow fun g guard hguard => ?_
    obtain ⟨guard', hguard', hfollows, -⟩ := hguards g guard hguard
    exact ⟨guard', hguard', hfollows⟩

theorem Follows.refl (h : Guarded made sent guards calls) {g : Nat}
    (hguard : guards[g]? = some guard) :
    Follows guard guard := ⟨.inl rfl, h.gone hguard⟩

theorem keeps_of_none {g : Nat} (hlease : p.lease? = none) : p.keeps g = false := by
  simp [Point.keeps, hlease]

/-- A call starts that keeps no guard. -/
theorem Guarded.start (h : Guarded made sent guards calls) (hlease : p.lease? = none)
    (hcarries : ∀ use, p.carries = some use → use.Accounted made guards) :
    Guarded made sent guards (calls ++ [p]) := by
  refine h.change rfl (fun g guard hguard => ⟨guard, hguard, .refl h hguard, ?_⟩) ?_ ?_
  · rw [Threads.countP_start, keeps_of_none hlease]
    exact h.kept g guard hguard
  · refine Threads.forall_start h.known fun g hg => ?_
    rw [keeps_of_none hlease] at hg
    cases hg
  · exact Threads.forall_start h.carries hcarries

theorem Destroyed.turn (h : Destroyed made guards command) (hguards : Guards guards p guards' p') :
    Destroyed (made ++ p.makes.toList) guards' command := by
  obtain ⟨g, old, hmade, hguard, hnone⟩ := h
  have hmade' : (made ++ p.makes.toList)[g]? = some command := by
    rw [List.getElem?_append_left (List.getElem?_eq_some_iff.mp hmade).1, hmade]
  cases hguards with
  | same _ _ => exact ⟨g, old, hmade', hguard, hnone⟩
  | make _ _ _ =>
      refine ⟨g, old, hmade', ?_, hnone⟩
      rw [List.getElem?_append_left (List.getElem?_eq_some_iff.mp hguard).1, hguard]
  | unkeep _ _ _ _ hget =>
      refine ⟨g, _, hmade', by rw [hget, hguard]; rfl, ?_⟩
      split <;> exact hnone

theorem Use.Accounted.turn {use : Use} (h : use.Accounted made guards)
    (hguards : Guards guards p guards' p') : use.Accounted (made ++ p.makes.toList) guards' := by
  cases use with
  | guard command => exact h
  | abandoned command => exact Destroyed.turn h hguards
  | prepare lease => trivial

theorem makes_carries (hmakes : p.makes = some command) : p.carries = some (.guard command) := by
  unfold Point.makes at hmakes
  split at hmakes <;> cases hmakes
  rfl

/-- A call moves. -/
theorem Guarded.turn {i : Nat} (h : Guarded made sent guards calls)
    (hmove : Threads.Turn calls i p p' calls') (hguards : Guards guards p guards' p')
    (hcarries : ∀ use, p'.carries = some use → p.carries = some use) :
    Guarded (made ++ p.makes.toList) sent guards' calls' := by
  have hmoved : ∀ q ∈ calls', ∀ use, q.carries = some use →
      use.Accounted (made ++ p.makes.toList) guards' := by
    refine Threads.forall_turn hmove h.carries (fun hp use huse => ?_) fun q hq use huse => ?_
    · exact (hp use (hcarries use huse)).turn hguards
    · exact (hq use huse).turn hguards
  have hsent (c : DispatchCommand) (hc : c ∈ sent) (hkind : c.kind = .abandoned) :
      Destroyed (made ++ p.makes.toList) guards' c := (h.sent c hc hkind).turn hguards
  have hkind : ∀ c ∈ made ++ p.makes.toList, c.kind = .abandoned := by
    intro c hc
    rcases List.mem_append.mp hc with hc | hc
    · exact h.kind c hc
    · exact h.carries p hmove.mem _ (makes_carries (Option.mem_toList.mp hc))
  have hcount (g : Nat) := Threads.countP_turn (Point.keeps g) hmove
  cases hguards with
  | same hmakes hlease =>
      have hkeeps (g : Nat) : p'.keeps g = p.keeps g := by rw [Point.keeps, hlease, Point.keeps]
      rw [hmakes, Option.toList, List.append_nil] at hmoved ⊢
      refine h.change rfl (fun g guard hguard => ⟨guard, hguard, .refl h hguard, ?_⟩) ?_ hmoved
      · have hg := hcount g
        rw [hkeeps] at hg
        rw [h.kept g guard hguard]
        omega
      · exact Threads.forall_turn hmove h.known (fun hp g hg => hp g (hkeeps g ▸ hg)) fun q hq => hq
  | @make _ command hmakes hlease hlease' =>
      -- No call keeps the new guard.
      have hsame (g : Nat) : calls'.countP (Point.keeps g) = calls.countP (Point.keeps g) := by
        have hg := hcount g
        rw [keeps_of_none hlease, keeps_of_none hlease'] at hg
        exact hg
      have hknown : ∀ q ∈ calls', ∀ g, q.keeps g = true → g < guards.length := by
        refine Threads.forall_turn hmove h.known (fun _ g hg => ?_) fun q hq => hq
        rw [keeps_of_none hlease'] at hg
        cases hg
      rw [hmakes, Option.toList] at hmoved hsent hkind ⊢
      refine ⟨by simp [h.length], fun g guard hguard => ?_, fun q hq g hg => ?_,
        fun g guard hguard => ?_, hmoved, hsent, hkind⟩
      · rw [hsame]
        rw [List.getElem?_append] at hguard
        split at hguard
        · exact h.kept g guard hguard
        · next hlt =>
            obtain rfl := List.mem_singleton.mp (List.mem_of_getElem? hguard)
            refine (List.countP_eq_zero.mpr fun q hq hg => ?_).symm
            exact hlt (h.known q hq g hg)
      · have hlt := hknown q hq g hg
        simp only [List.length_append]
        omega
      · rw [List.getElem?_append] at hguard
        split at hguard
        · next hlt =>
            rw [List.getElem?_append_left (h.length ▸ hlt)]
            exact h.command g guard hguard
        · next hlt =>
            rw [List.getElem?_append_right (h.length ▸ Nat.le_of_not_lt hlt), ← h.length]
            cases hk : g - guards.length with
            | zero =>
                rw [hk] at hguard
                cases hguard
                exact .inl rfl
            | succ k =>
                rw [hk] at hguard
                cases hguard
  | @unkeep _ lease _ hmakes hlease hlease' hlength hget =>
      have hkeeps (g : Nat) :
        (p.keeps g).toNat = if lease.abandonmentGuard = some g then 1 else 0 := by
        rw [Point.keeps, hlease, Option.bind_some]
        by_cases hg : lease.abandonmentGuard = some g <;> simp [hg]
      rw [hmakes, Option.toList, List.append_nil] at hmoved ⊢
      refine h.change hlength (fun g guard hguard => ?_) ?_ hmoved
      · have hg := hcount g
        have hgone := h.gone hguard
        rw [hkeeps, keeps_of_none hlease', ← h.kept g guard hguard, Bool.toNat_false] at hg
        refine ⟨_, by rw [hget, hguard]; rfl, ?_⟩
        split
        · next hown =>
            rw [if_pos hown] at hg
            refine ⟨⟨.inl rfl, fun hnone => ?_⟩, ?_⟩
            · obtain ⟨hterms, hkept⟩ := hgone hnone
              exact ⟨hterms, by show guard.kept - 1 = 0; omega⟩
            · show guard.kept - 1 = _
              omega
        · next hown =>
            rw [if_neg hown] at hg
            refine ⟨⟨.inl rfl, hgone⟩, ?_⟩
            show guard.kept = _
            omega
      · refine Threads.forall_turn hmove h.known (fun _ g hg => ?_) fun q hq => hq
        rw [keeps_of_none hlease'] at hg
        cases hg

/-- A guard is changed, and calls may start. -/
theorem Guarded.mapGuard {o : Option Nat} {f : AbandonmentGuard → AbandonmentGuard}
    {s : List Point} (h : Guarded made sent d.guards calls)
    (hguard : ∀ (g : Nat) (guard : AbandonmentGuard), o = some g → d.guards[g]? = some guard →
      Follows guard (f guard) ∧ (f guard).kept = guard.kept + s.countP (Point.keeps g))
    (hother : ∀ p ∈ s, ∀ g, p.keeps g = true → o = some g ∧ g < d.guards.length)
    (hcarries : ∀ p ∈ s, ∀ use, p.carries = some use →
      use.Accounted made (d.mapGuard o f).guards) :
    Guarded made sent (d.mapGuard o f).guards (calls ++ s) := by
  have hfollows (g : Nat) (guard : AbandonmentGuard) (hold : d.guards[g]? = some guard) :
      ∃ guard', (d.mapGuard o f).guards[g]? = some guard' ∧ Follows guard guard' ∧
        guard'.kept = (calls ++ s).countP (Point.keeps g) := by
    refine ⟨_, by rw [mapGuard_get, hold]; rfl, ?_⟩
    rw [List.countP_append, ← h.kept g guard hold]
    split
    · next hown => exact hguard g guard hown hold
    · next hown =>
        refine ⟨.refl h hold, ?_⟩
        rw [List.countP_eq_zero.mpr fun p hp hg => hown (hother p hp g hg).1, Nat.add_zero]
  refine h.change (mapGuard_length _ _ d) hfollows (fun p hp g hg => ?_) fun p hp use huse => ?_
  · rcases List.mem_append.mp hp with hp | hp
    · exact h.known p hp g hg
    · exact (hother p hp g hg).2
  · rcases List.mem_append.mp hp with hp | hp
    · refine (h.carries p hp use huse).follow fun g guard hold => ?_
      obtain ⟨guard', hguard', hfollow, -⟩ := hfollows g guard hold
      exact ⟨guard', hguard', hfollow⟩
    · exact hcarries p hp use huse

theorem Guarded.send {more : List DispatchCommand} (h : Guarded made sent guards calls)
    (hmore : ∀ command ∈ more, command.kind = .abandoned → Destroyed made guards command) :
    Guarded made (sent ++ more) guards calls :=
  { h with
    sent := fun command hcommand hkind => by
      rcases List.mem_append.mp hcommand with hold | hnew
      · exact h.sent command hold hkind
      · exact hmore command hnew hkind }

/-- What is dispatched is an abandonment that a call carries, or the release of a lease. -/
theorem sends_cases (hsends : p.sends = some (.dispatch command)) :
    p.carries = some (.abandoned command) ∨
      ∃ lease, p = .claimed (some lease) ∧ command = lease.release := by
  unfold Point.sends at hsends
  split at hsends <;> cases hsends
  · exact .inl rfl
  · exact .inr ⟨_, rfl, rfl⟩

theorem pointIn_turn {go : Bool} (hp : w.calls[call]? = some p) :
    pointIn ⟨w, .turn call go, w'⟩ = some p := hp

theorem pointIn_other (hother : ∀ call go, i ≠ .turn call go) : pointIn ⟨w, i, w'⟩ = none := by
  unfold pointIn
  split
  · next call' go hinput => exact absurd hinput (hother call' go)
  · rfl

theorem Steps.guarded (h : Steps w i w')
    (hguarded : Guarded made sent w.dispatcher.guards w.calls) :
    Guarded (made ++ (guardIn ⟨w, i, w'⟩).toList) (sent ++ (dispatchedIn ⟨w, i, w'⟩).toList)
      w'.dispatcher.guards w'.calls := by
  have others {w' : World} (hother : ∀ call go, i ≠ .turn call go)
      (h : Guarded made sent w'.dispatcher.guards w'.calls) :
      Guarded (made ++ (guardIn ⟨w, i, w'⟩).toList) (sent ++ (dispatchedIn ⟨w, i, w'⟩).toList)
        w'.dispatcher.guards w'.calls := by
    rw [guardIn, dispatchedIn, enqueuedIn, pointIn_other hother]
    simpa using h
  cases h with
  | newGuard =>
      refine others (by simp) (hguarded.start rfl fun use huse => ?_)
      cases huse
      rfl
  | @prepare lease hreferenced =>
      refine others (by simp) (hguarded.mapGuard (fun g guard hown hguard => ?_)
        (fun p hp g hg => ?_) fun p hp use huse => ?_)
      · obtain ⟨guard', hguard', hterms⟩ := hreferenced g hown
        rw [hguard] at hguard'
        cases hguard'
        have hkeeps : Point.keeps g (.acquire (.prepare lease)) = true := by
          simp [Point.keeps, Point.lease?, hown]
        refine ⟨⟨.inl rfl, fun hnone => ?_⟩, ?_⟩
        · have hgone := hguarded.gone hguard hnone
          omega
        · rw [List.countP_singleton, if_pos hkeeps]
      · obtain rfl := List.mem_singleton.mp hp
        have hown : lease.abandonmentGuard = some g := by
          simpa [Point.keeps, Point.lease?] using hg
        obtain ⟨guard, hguard, -⟩ := hreferenced g hown
        exact ⟨hown, (List.getElem?_eq_some_iff.mp hguard).1⟩
      · obtain rfl := List.mem_singleton.mp hp
        cases huse
  | @withoutLease binary lease hlease =>
      have hpoint : (prepareCloexec binary lease).lease? = none ∧
          (prepareCloexec binary lease).carries = none := by
        rcases hlease with rfl | rfl
        · cases lease <;> exact ⟨rfl, rfl⟩
        · cases binary <;> exact ⟨rfl, rfl⟩
      refine others (by simp) (hguarded.start hpoint.1 fun use huse => ?_)
      rw [hpoint.2] at huse
      cases huse
  | closeAndJoin =>
      refine others (by simp) (hguarded.start rfl fun use huse => ?_)
      cases huse
  | @turn call go p p' d hp hturn =>
      have hguards := turn_guards hturn
      have hafter := hguarded.turn (.mk hp) hguards fun use => turn_carries hturn
      rw [guardIn, dispatchedIn, enqueuedIn, pointIn_turn hp, Option.bind_some, Option.bind_some]
      refine hafter.send fun command hcommand hkind => ?_
      rw [Option.mem_toList, Option.bind_eq_some_iff] at hcommand
      obtain ⟨sent', hsends, hdispatch⟩ := hcommand
      cases sent' with
      | stop => cases hdispatch
      | dispatch c =>
          cases hdispatch
          rcases sends_cases hsends with hcarries | ⟨lease, -, rfl⟩
          · have hdestroyed : Destroyed made w.dispatcher.guards command :=
              hguarded.carries p (List.mem_of_getElem? hp) _ hcarries
            exact hdestroyed.turn hguards
          · cases hkind
  | work hwork =>
      refine others (by simp) ?_
      have hsame : ∀ {d}, Works w.dispatcher d → d.guards = w.dispatcher.guards :=
        fun hworks => by cases hworks <;> rfl
      show Guarded made sent _ w.calls
      rw [hsame (work_works hwork)]
      exact hguarded
  | @copyTerm g guard hguard hterms =>
      have hafter : Guarded made sent (w.dispatcher.mapGuard (some g) fun guard =>
          { guard with terms := guard.terms + 1 }).guards (w.calls ++ []) := by
        refine hguarded.mapGuard (fun g' guard' hown hguard' => ?_)
          (fun p hp => absurd hp List.not_mem_nil) fun p hp => absurd hp List.not_mem_nil
        cases hown
        rw [hguard] at hguard'
        cases hguard'
        refine ⟨⟨.inl rfl, fun hnone => ?_⟩, rfl⟩
        have hgone := hguarded.gone hguard hnone
        omega
      rw [List.append_nil] at hafter
      exact others (by simp) hafter
  | @dropTerm g guard hguard hterms =>
      have hafter : Guarded made sent (w.dispatcher.mapGuard (some g) fun guard =>
          { guard with terms := guard.terms - 1 }).guards (w.calls ++ []) := by
        refine hguarded.mapGuard (fun g' guard' hown hguard' => ?_)
          (fun p hp => absurd hp List.not_mem_nil) fun p hp => absurd hp List.not_mem_nil
        cases hown
        rw [hguard] at hguard'
        cases hguard'
        refine ⟨⟨.inl rfl, fun hnone => ?_⟩, rfl⟩
        have hgone := hguarded.gone hguard hnone
        omega
      rw [List.append_nil] at hafter
      exact others (by simp) hafter
  | @destroy g command hguard =>
      refine others (by simp) (hguarded.mapGuard (fun g' guard' hown hguard' => ?_)
        (fun p hp g' hg => ?_) fun p hp use huse => ?_)
      · cases hown
        rw [hguard] at hguard'
        cases hguard'
        exact ⟨⟨.inr rfl, fun _ => ⟨rfl, rfl⟩⟩, rfl⟩
      · obtain rfl := List.mem_singleton.mp hp
        rw [keeps_of_none rfl] at hg
        cases hg
      · obtain rfl := List.mem_singleton.mp hp
        cases huse
        rcases hguarded.command g _ hguard with hmade | ⟨hnone, -⟩
        · refine ⟨g, _, hmade.symm, by rw [mapGuard_get, hguard]; rfl, ?_⟩
          simp
        · cases hnone

theorem Run.guarded (h : Run visits w) :
    Guarded (visits.filterMap guardIn) (visits.filterMap dispatchedIn) w.dispatcher.guards
      w.calls := by
  induction h with
  | nil =>
      refine ⟨rfl, ?_, ?_, ?_, ?_, ?_, ?_⟩ <;> simp [World.start, ReleaseDispatcher.start]
  | @snoc visits w i w' hrun hst ih =>
      rw [List.filterMap_append, List.filterMap_append, filterMap_one, filterMap_one]
      exact (Run.steps hrun hst).guarded ih

/-! ## Releases come first -/

/-- The frame was dropped before it was claimed, and its guard was given up. -/
inductive Spared : Point → Prop where
  | leave {result} (h : result ≠ .released) : Spared (.leave (.done result))
  | returned {result} (h : result ≠ .released) : Spared (.returned result)

/-- A lease that is not kept any more was retired, or it will never be. -/
theorem Journey.over (h : Journey lease p phase) (hlease : p.lease? ≠ some lease) :
    phase = .retired ∨ Spared p := by
  cases h with
  | leave hresult => exact .inr (.leave hresult)
  | returned hresult => exact .inr (.returned hresult)
  | leaveRetired => exact .inl rfl
  | dropKeepalive => exact .inl rfl
  | dropRetired => exact .inl rfl
  | released => exact .inl rfl
  | _ => exact absurd rfl hlease

theorem Journey.spared (h : Journey lease p phase) (hspared : Spared p) : phase = .unclaimed := by
  cases hspared with
  | leave hresult =>
      cases h
      rfl
  | returned hresult =>
      cases h with
      | returned _ => rfl
      | released => exact absurd rfl hresult

theorem Spared.carries (h : Spared p) : p.carries = none := by
  cases h <;> rfl

theorem Spared.turn (h : Spared p) (hturn : turn d go p = some (.next d' p')) : Spared p' := by
  cases h with
  | leave hresult =>
      simp only [Dispatcher.turn, releaseClient, Option.some.injEq] at hturn
      split at hturn <;> cases hturn
      exact .returned hresult
  | returned _ => cases hturn

theorem Steps.spared (h : Steps w i w') (hp : w.calls[call]? = some p) (hspared : Spared p) :
    ∃ p, w'.calls[call]? = some p ∧ Spared p := by
  have hlt := (List.getElem?_eq_some_iff.mp hp).1
  rcases h.calls with ⟨call', go, q, q', d, rfl, hq, hturn, rfl⟩ | ⟨-, -, started, hcalls, -⟩
  · by_cases heq : call' = call
    · subst heq
      rw [hp] at hq
      cases hq
      exact ⟨q', List.getElem?_set_self hlt, hspared.turn hturn⟩
    · exact ⟨p, (List.getElem?_set_ne heq).trans hp, hspared⟩
  · exact ⟨p, by rw [hcalls, List.getElem?_append_left hlt, hp], hspared⟩

/-- The command is the abandonment of the lease's holder. -/
structure Lease.AbandonedBy (lease : Lease) (command : DispatchCommand) : Prop where
  /-- It is an abandonment. -/
  kind : command.kind = .abandoned
  /-- It names the token of the lease. -/
  token : command.token = lease.token
  /-- It names the holder of the lease. -/
  holder : command.holder = lease.holder

/-- The guard of the lease is the guard of its holder: the only one that was made. -/
def Lease.OwnsGuard (lease : Lease) (made : List DispatchCommand) : Prop :=
  ∀ (g : Nat) (command : DispatchCommand), made[g]? = some command → lease.AbandonedBy command →
    lease.abandonmentGuard = some g

theorem Lease.OwnsGuard.before {more : List DispatchCommand} (h : lease.OwnsGuard (made ++ more)) :
    lease.OwnsGuard made := by
  intro g command hmade habandoned
  refine h g command ?_ habandoned
  rw [List.getElem?_append_left (List.getElem?_eq_some_iff.mp hmade).1, hmade]

/-- The guard of a holder that was abandoned is not kept. -/
theorem Guarded.not_kept (h : Guarded made sent guards calls) (hown : lease.OwnsGuard made)
    (habandoned : lease.AbandonedBy command) (hdestroyed : Destroyed made guards command) :
    ∃ (g : Nat) (guard : AbandonmentGuard), lease.abandonmentGuard = some g ∧
      guards[g]? = some guard ∧ guard.terms = 0 ∧ ∀ p ∈ calls, p.lease? ≠ some lease := by
  obtain ⟨g, guard, hmade, hguard, hnone⟩ := hdestroyed
  obtain ⟨hterms, hkept⟩ := h.gone hguard hnone
  have hg := hown g command hmade habandoned
  refine ⟨g, guard, hg, hguard, hterms, fun p hp hlease => ?_⟩
  rw [h.kept g guard hguard] at hkept
  have hkeeps : p.keeps g = true := by simp [Point.keeps, hlease, hg]
  exact absurd (Threads.countP_pos hp hkeeps) (by omega)

/-- A visit that dispatches is a turn. -/
theorem Steps.dispatched (h : Steps w i w') (hsent : dispatchedIn ⟨w, i, w'⟩ = some command) :
    ∃ call go p p' d, i = .turn call go ∧ w.calls[call]? = some p ∧
      Dispatcher.turn w.dispatcher go p = some (.next d p') ∧
      w' = { w with dispatcher := d, calls := w.calls.set call p' } ∧
      p.sends = some (.dispatch command) := by
  rcases h.calls with ⟨call, go, p, p', d, rfl, hp, hturn, rfl⟩ | ⟨hother, -⟩
  · refine ⟨call, go, p, p', d, rfl, hp, hturn, rfl, ?_⟩
    rw [dispatchedIn, enqueuedIn, pointIn_turn hp, Option.bind_some] at hsent
    obtain ⟨sent, hsends, hcommand⟩ := Option.bind_eq_some_iff.mp hsent
    cases sent with
    | stop => cases hcommand
    | dispatch c =>
        cases hcommand
        exact hsends
  · rw [dispatchedIn, enqueuedIn, pointIn_other hother] at hsent
    cases hsent

theorem PreparedBy.before {v : Visit World Input} (h : PreparedBy (visits ++ [v]) call lease)
    (hv : v.input ≠ .prepare false (some lease)) : PreparedBy visits call lease := by
  obtain ⟨u, hu, hinput, hlen⟩ := h
  rcases snoc_mem hu with hu | rfl
  · exact ⟨u, hu, hinput, hlen⟩
  · exact absurd hinput hv

/-- **The release comes first.**  Before the abandonment of a holder is dispatched, the
call has dispatched the release of its lease, or the frame was dropped unclaimed. -/
theorem Run.release_first (h : Run visits w) (hown : lease.OwnsGuard (visits.filterMap guardIn))
    (hprepared : PreparedBy visits call lease) :
    ∀ before v after command, visits = before ++ v :: after → dispatchedIn v = some command →
      lease.AbandonedBy command →
      lease.release ∈ before.filterMap (dispatchedBy call) ∨
        ∃ p, w.calls[call]? = some p ∧ Spared p := by
  induction h with
  | nil =>
      obtain ⟨v, hv, -⟩ := hprepared
      exact absurd hv List.not_mem_nil
  | @snoc visits w i w' hrun hst ih =>
      intro before v after command heq hsent habandoned
      have hsteps := Run.steps hrun hst
      have hguarded := Run.guarded hrun
      rw [List.filterMap_append] at hown
      rcases List.eq_nil_or_concat after with rfl | ⟨after', u, rfl⟩
      · -- The abandonment is dispatched by this visit.
        obtain ⟨rfl, hv⟩ := List.append_inj' heq rfl
        cases hv
        obtain ⟨call', go, q, q', d, rfl, hq, hturn, rfl, hsends⟩ := hsteps.dispatched hsent
        have hcarries : q.carries = some (.abandoned command) := by
          rcases sends_cases hsends with hcarries | ⟨lease', -, rfl⟩
          · exact hcarries
          · cases habandoned.kind
        have hdestroyed : Destroyed _ _ command :=
          hguarded.carries q (List.mem_of_getElem? hq) _ hcarries
        obtain ⟨-, -, -, -, -, hfree⟩ := hguarded.not_kept hown.before habandoned hdestroyed
        obtain ⟨p, phase, hp, hjourney, haccount⟩ :=
          Run.journey hrun (hprepared.before (by simp))
        rcases hjourney.over (hfree p (List.mem_of_getElem? hp)) with rfl | hspared
        · refine .inl ?_
          rw [haccount.dispatched, if_pos rfl]
          exact List.mem_singleton_self _
        · exact .inr (hsteps.spared hp hspared)
      · rw [List.concat_eq_append] at heq
        obtain ⟨rfl, hu⟩ :=
          List.append_inj' (heq.trans (List.append_assoc before (v :: after') [u]).symm) rfl
        cases hu
        by_cases hold : PreparedBy (before ++ v :: after') call lease
        · rcases ih hown.before hold before v after' command rfl hsent habandoned with
            hfirst | ⟨p, hp, hspared⟩
          · exact .inl hfirst
          · exact .inr (hsteps.spared hp hspared)
        · -- The holder was abandoned, and no term is a reference to its guard.
          have hmem : command ∈ (before ++ v :: after').filterMap dispatchedIn :=
            List.mem_filterMap.mpr ⟨v, by simp, hsent⟩
          obtain ⟨g, guard, hg, hguard, hterms, -⟩ := hguarded.not_kept hown.before habandoned
            (hguarded.sent command hmem habandoned.kind)
          obtain ⟨u, hu, hinput, hlen⟩ := hprepared
          rcases snoc_mem hu with hu | rfl
          · exact absurd ⟨u, hu, hinput, hlen⟩ hold
          · have hinput' : i = .prepare false (some lease) := hinput
            subst hinput'
            cases hsteps with
            | prepare hreferenced =>
                obtain ⟨guard', hguard', hpos⟩ := hreferenced g hg
                rw [hguard] at hguard'
                cases hguard'
                omega
            | withoutLease hlease => rcases hlease with hbinary | hnone <;> contradiction

/-! ## Where releases come from -/

theorem Guards.back (h : Guards guards p guards' p') (hlease : p'.lease? = some lease) :
    p.lease? = some lease := by
  cases h with
  | same _ hsame => rw [← hsame, hlease]
  | make _ _ hnone =>
      rw [hnone] at hlease
      cases hlease
  | unkeep _ _ hnone _ _ =>
      rw [hnone] at hlease
      cases hlease

theorem PreparedBy.later {v : Visit World Input} (h : PreparedBy visits call lease) :
    PreparedBy (visits ++ [v]) call lease := by
  obtain ⟨u, hu, hinput⟩ := h
  exact ⟨u, List.mem_append_left _ hu, hinput⟩

/-- Only a call of `prepare_cloexec` has a lease. -/
theorem Run.prepared (h : Run visits w) (hp : w.calls[call]? = some p)
    (hlease : p.lease? = some lease) : PreparedBy visits call lease := by
  induction h generalizing p with
  | nil => cases hp
  | @snoc visits w i w' hrun hst ih =>
      have hsteps := Run.steps hrun hst
      -- A call that starts without a lease.
      have started {q : Point} (hq : q.lease? = none) (hget : (w.calls ++ [q])[call]? = some p) :
          PreparedBy (visits ++ [⟨w, i, w'⟩]) call lease := by
        rw [List.getElem?_append] at hget
        split at hget
        · exact (ih hget hlease).later
        · obtain rfl := List.mem_singleton.mp (List.mem_of_getElem? hget)
          rw [hq] at hlease
          cases hlease
      cases hsteps with
      | newGuard => exact started rfl hp
      | @prepare lease' hreferenced =>
          have hget : (w.calls ++ [Point.acquire (.prepare lease')])[call]? = some p := hp
          rw [List.getElem?_append] at hget
          split at hget
          · exact (ih hget hlease).later
          · next hlt =>
              have hzero : call - w.calls.length = 0 := by
                have hlt' := (List.getElem?_eq_some_iff.mp hget).1
                simp only [List.length_singleton] at hlt'
                omega
              rw [hzero] at hget
              cases hget
              cases hlease
              exact ⟨_, List.mem_append_right _ (List.mem_singleton_self _), rfl,
                by show w.calls.length = call; omega⟩
      | @withoutLease binary lease' hnone =>
          refine started ?_ hp
          rcases hnone with rfl | rfl
          · cases lease' <;> rfl
          · cases binary <;> rfl
      | closeAndJoin => exact started rfl hp
      | @turn call' go q q' d hq hturn =>
          by_cases heq : call' = call
          · subst heq
            have hset : (w.calls.set call' q')[call']? = some p := hp
            rw [List.getElem?_set_self (List.getElem?_eq_some_iff.mp hq).1] at hset
            cases hset
            exact (ih hq ((turn_guards hturn).back hlease)).later
          · have hset : (w.calls.set call' q')[call]? = some p := hp
            rw [List.getElem?_set_ne heq] at hset
            exact (ih hset hlease).later
      | work _ => exact (ih hp hlease).later
      | copyTerm _ _ => exact (ih hp hlease).later
      | dropTerm _ _ => exact (ih hp hlease).later
      | destroy _ => exact started rfl hp

/-- **A release is dispatched by the call whose lease it is.** -/
theorem Run.releases (h : Run visits w) {v : Visit World Input} (hv : v ∈ visits)
    (hsent : dispatchedIn v = some command) (hkind : command.kind = .release) :
    ∃ call lease, PreparedBy visits call lease ∧ command = lease.release ∧
      dispatchedBy call v = some command := by
  obtain ⟨before, after, rfl, hbefore, hst, -⟩ := Path.mem_split h hv
  have hrun : Run before v.pre := hbefore
  obtain ⟨call, go, p, p', d, hinput, hp, hturn, hpost, hsends⟩ :=
    (Run.steps hrun hst).dispatched
      (show dispatchedIn ⟨v.pre, v.input, v.post⟩ = some command from hsent)
  rcases sends_cases hsends with hcarries | ⟨lease, rfl, rfl⟩
  · -- An abandonment is no release.
    have hdestroyed : Destroyed _ _ command :=
      hrun.guarded.carries p (List.mem_of_getElem? hp) _ hcarries
    obtain ⟨g, guard, hmade, -⟩ := hdestroyed
    rw [hrun.guarded.kind command (List.mem_of_getElem? hmade)] at hkind
    cases hkind
  · refine ⟨call, lease, ?_, rfl, ?_⟩
    · obtain ⟨u, hu, hprepared⟩ := hrun.prepared hp rfl
      exact ⟨u, List.mem_append_left _ hu, hprepared⟩
    · simp [dispatchedBy, turnOf, hinput, hsent]

end VideoInterop.Dispatcher
