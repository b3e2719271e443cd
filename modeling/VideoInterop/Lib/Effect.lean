import Mathlib.Data.List.Infix

/-!
# Effects

A computation on a state that can fail, where a failure keeps what was done
before it: how a method with a mutable receiver and a `Result` behaves.
`Triple P x Q E` says of such a computation what success and failure leave.

A state may keep a history of what was done, latest first.  `Legal` says that
every entry was allowed by those before it.
-/

namespace VideoInterop

/-- A computation on a state that can fail.  A failure keeps the state. -/
abbrev Effect (σ ε α : Type) := ExceptT ε (StateM σ) α

namespace Effect

variable {σ ε ε' α β : Type}

/-- The result of a computation and the state it leaves. -/
def exec (x : Effect σ ε α) (s : σ) : Except ε α × σ := StateT.run (ExceptT.run x) s

/-- Fail with `e` when `c` holds. -/
def failWhen (c : Bool) (e : ε) : Effect σ ε Unit := if c then throw e else pure ()

/-- Fail if a call has failed. -/
def expect (failure : Option ε') (e : ε' → ε) : Effect σ ε Unit :=
  match failure with
  | none => pure ()
  | some x => throw (e x)

/-- Do something before a failure is passed on. -/
def onFailure (x : Effect σ ε α) (cleanup : Effect σ ε Unit) : Effect σ ε α :=
  tryCatch x fun e => do
    cleanup
    throw e

/-! ## Triples -/

/-- What holds of a result and a state, by whether the result is a failure. -/
def Post (Q : α → σ → Prop) (E : ε → σ → Prop) : Except ε α × σ → Prop
  | (.ok a, s) => Q a s
  | (.error e, s) => E e s

/-- From `P`, success leaves `Q` and failure leaves `E`. -/
def Triple (P : σ → Prop) (x : Effect σ ε α) (Q : α → σ → Prop) (E : ε → σ → Prop) : Prop :=
  ∀ s, P s → Post Q E (x.exec s)

variable {P P' : σ → Prop} {Q Q' : α → σ → Prop} {R : β → σ → Prop} {E E' : ε → σ → Prop}
  {x : Effect σ ε α}

theorem Triple.conseq (h : Triple P x Q E) (hP : ∀ s, P' s → P s) (hQ : ∀ a s, Q a s → Q' a s)
    (hE : ∀ e s, E e s → E' e s) : Triple P' x Q' E' := by
  intro s hs
  have hpost := h s (hP s hs)
  match x.exec s, hpost with
  | (.ok a, s'), hpost => exact hQ a s' hpost
  | (.error e, s'), hpost => exact hE e s' hpost

theorem Triple.onOk (h : Triple P x Q E) (hQ : ∀ a s, Q a s → Q' a s) : Triple P x Q' E :=
  h.conseq (fun _ hs => hs) hQ fun _ _ hs => hs

theorem Triple.onError (h : Triple P x Q E) (hE : ∀ e s, E e s → E' e s) : Triple P x Q E' :=
  h.conseq (fun _ hs => hs) (fun _ _ hs => hs) hE

theorem Triple.pure {a : α} (h : ∀ s, P s → Q a s) :
    Triple P (Pure.pure a : Effect σ ε α) Q E := h

theorem Triple.throw {e : ε} (h : ∀ s, P s → E e s) :
    Triple P (MonadExcept.throw e : Effect σ ε α) Q E := h

theorem exec_bind (x : Effect σ ε α) (f : α → Effect σ ε β) (s : σ) :
    (x >>= f).exec s = match x.exec s with
      | (.ok a, s') => (f a).exec s'
      | (.error e, s') => (.error e, s') := by
  show (match x.exec s with | (r, s') => (ExceptT.bindCont f r : StateM σ (Except ε β)) s') = _
  rcases x.exec s with ⟨_ | _, s'⟩ <;> rfl

theorem Triple.bind {f : α → Effect σ ε β} (hx : Triple P x Q E)
    (hf : ∀ a, Triple (Q a) (f a) R E) : Triple P (x >>= f) R E := by
  intro s hs
  have hpost := hx s hs
  rw [exec_bind]
  match x.exec s, hpost with
  | (.ok a, s'), hpost => exact hf a s' hpost
  | (.error e, s'), hpost => exact hpost

theorem exec_tryCatch (x : Effect σ ε α) (f : ε → Effect σ ε α) (s : σ) :
    (tryCatch x f).exec s = match x.exec s with
      | (.ok a, s') => (.ok a, s')
      | (.error e, s') => (f e).exec s' := by
  show (match x.exec s with
    | (r, s') => (match r with
      | .ok a => pure (.ok a)
      | .error e => f e : StateM σ (Except ε α)) s') = _
  rcases x.exec s with ⟨_ | _, s'⟩ <;> rfl

theorem exec_adapt (f : ε → ε') (x : Effect σ ε α) (s : σ) :
    exec (ExceptT.adapt f x) s = ((x.exec s).1.mapError f, (x.exec s).2) := rfl

theorem exec_onFailure_ok {x : Effect σ ε α} {cleanup : Effect σ ε Unit} {s s' : σ} {a : α}
    (hx : x.exec s = (.ok a, s')) : (onFailure x cleanup).exec s = (.ok a, s') := by
  rw [onFailure, exec_tryCatch, hx]

theorem exec_onFailure_error {x : Effect σ ε α} {cleanup : Effect σ ε Unit} {s s' s'' : σ} {e : ε}
    (hx : x.exec s = (.error e, s')) (hclean : cleanup.exec s' = (.ok (), s'')) :
    (onFailure x cleanup).exec s = (.error e, s'') := by
  rw [onFailure, exec_tryCatch, hx]
  show (cleanup >>= fun _ => MonadExcept.throw e).exec s' = _
  rw [exec_bind, hclean]
  rfl

/-- The cleanup itself does not fail. -/
theorem Triple.onFailure {cleanup : Effect σ ε Unit} (hx : Triple P x Q E')
    (hclean : ∀ e, Triple (E' e) cleanup (fun _ => E e) fun _ _ => False) :
    Triple P (onFailure x cleanup) Q E := by
  intro s hs
  have hpost := hx s hs
  rw [Effect.onFailure, exec_tryCatch]
  match x.exec s, hpost with
  | (.ok a, s'), hpost => exact hpost
  | (.error e, s'), hpost =>
    have hpost' := hclean e s' hpost
    show Post Q E ((cleanup >>= fun _ => MonadExcept.throw e).exec s')
    rw [exec_bind]
    match cleanup.exec s', hpost' with
    | (.ok _, s''), hpost' => exact hpost'

theorem Triple.failWhen {c : Bool} {e : ε} (hE : ∀ s, P s → c = true → E e s) :
    Triple P (failWhen c e) (fun _ s => P s ∧ c = false) E := by
  intro s hs
  cases c with
  | false => exact ⟨hs, rfl⟩
  | true => exact hE s hs rfl

theorem Triple.expect {failure : Option ε'} {e : ε' → ε}
    (hE : ∀ s x, P s → failure = some x → E (e x) s) :
    Triple P (expect failure e) (fun _ => P) E := by
  intro s hs
  cases failure with
  | none => exact hs
  | some x => exact hE s x hs rfl

theorem Triple.adapt {f : ε → ε'} {E : ε' → σ → Prop} (hx : Triple P x Q fun e => E (f e)) :
    Triple P (ExceptT.adapt f x) Q E := by
  intro s hs
  have hpost := hx s hs
  rw [exec_adapt]
  match x.exec s, hpost with
  | (.ok a, s'), hpost => exact hpost
  | (.error e, s'), hpost => exact hpost

/-- What does not speak of the state. -/
theorem Triple.of_fact {φ : Prop} (h : φ → Triple P x Q E) : Triple (fun s => φ ∧ P s) x Q E :=
  fun s hs => h hs.1 s hs.2

/-! ## What is left alone -/

section Preserves

variable {γ : Type} {part : σ → γ}

/-- A computation leaves a part of the state alone, whatever it comes to. -/
def Preserves (part : σ → γ) (x : Effect σ ε α) : Prop := ∀ s, part (x.exec s).2 = part s

theorem Preserves.pure {a : α} : Preserves part (Pure.pure a : Effect σ ε α) := fun _ => rfl

theorem Preserves.throw {e : ε} : Preserves part (MonadExcept.throw e : Effect σ ε α) :=
  fun _ => rfl

theorem Preserves.get : Preserves part (MonadState.get : Effect σ ε σ) := fun _ => rfl

theorem Preserves.modify {f : σ → σ} (hf : ∀ s, part (f s) = part s) :
    Preserves part (modify f : Effect σ ε PUnit) := hf

theorem Preserves.bind {f : α → Effect σ ε β} (hx : Preserves part x)
    (hf : ∀ a, Preserves part (f a)) : Preserves part (x >>= f) := by
  intro s
  have hpart := hx s
  rw [exec_bind]
  match x.exec s, hpart with
  | (.ok a, s'), hpart => exact (hf a s').trans hpart
  | (.error e, s'), hpart => exact hpart

theorem Preserves.map {f : α → β} (hx : Preserves part x) : Preserves part (f <$> x) := by
  rw [map_eq_pure_bind]
  exact hx.bind fun _ => .pure

theorem Preserves.failWhen {c : Bool} {e : ε} : Preserves part (failWhen c e) := by
  cases c with
  | false => exact .pure
  | true => exact .throw

theorem Preserves.expect {failure : Option ε'} {e : ε' → ε} :
    Preserves part (expect failure e) := by
  cases failure with
  | none => exact .pure
  | some x => exact .throw

theorem Preserves.adapt {f : ε → ε'} (hx : Preserves part x) :
    Preserves part (ExceptT.adapt f x) := hx

/-- A part that is left alone is what it was. -/
theorem Preserves.triple {c : γ} (hx : Preserves part x) :
    Triple (fun s => part s = c) x (fun _ s => part s = c) fun _ s => part s = c := by
  intro s hs
  have hpart := hx s
  match x.exec s, hpart with
  | (.ok a, s'), hpart => exact hpart.trans hs
  | (.error e, s'), hpart => exact hpart.trans hs

theorem Preserves.onFailure {cleanup : Effect σ ε Unit} (hx : Preserves part x)
    (hclean : Preserves part cleanup) : Preserves part (Effect.onFailure x cleanup) := by
  intro s
  have hpart := hx s
  rw [Effect.onFailure, exec_tryCatch]
  match x.exec s, hpart with
  | (.ok a, s'), hpart => exact hpart
  | (.error e, s'), hpart =>
    exact ((hclean.bind fun _ => Preserves.throw) s').trans hpart

end Preserves

end Effect

/-! ## Histories -/

variable {Event : Type}

/-- Every event of a history, latest first, was allowed by the events before it. -/
inductive Legal (allowed : List Event → Event → Prop) : List Event → Prop
  | nil : Legal allowed []
  | cons {past : List Event} {e : Event} (h : Legal allowed past) (he : allowed past e) :
      Legal allowed (e :: past)

variable {allowed : List Event → Event → Prop}

/-- Legality is about each event and its past. -/
theorem Legal.allowed_of_suffix {history past : List Event} {e : Event} (h : Legal allowed history)
    (hsuffix : e :: past <:+ history) : allowed past e := by
  induction h with
  | nil => exact absurd (List.suffix_nil.mp hsuffix) (List.cons_ne_nil _ _)
  | cons _ he ih =>
      rcases List.suffix_cons_iff.mp hsuffix with heq | hsuffix
      · cases heq
        exact he
      · exact ih hsuffix

end VideoInterop
