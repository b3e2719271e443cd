import Mathlib

/-!
# Checks

A validator is a sequence of checks, each of which may refuse with an error.
`refuse` is one check.  The lemmas here read an accepting run backwards: a
sequence accepts exactly when each of its parts does.
-/

namespace VideoInterop

variable {ε α β : Type}

/-- Refuse with `e` when `c` holds. -/
def refuse (c : Bool) (e : ε) : Except ε Unit := if c then .error e else .ok ()

@[simp] theorem refuse_false (e : ε) : refuse false e = .ok () := rfl

@[simp] theorem refuse_true (e : ε) : refuse true e = .error e := rfl

@[simp] theorem refuse_ok {c : Bool} {e : ε} {u : Unit} : refuse c e = .ok u ↔ c = false := by
  cases c <;> simp [refuse]

@[simp] theorem ok_bind (a : α) (f : α → Except ε β) : Except.ok a >>= f = f a := rfl

@[simp] theorem error_bind (e : ε) (f : α → Except ε β) : Except.error e >>= f = .error e := rfl

/-- Nothing left to check. -/
@[simp] theorem bind_done (x : Except ε Unit) : (x >>= fun _ => Except.ok ()) = x := by
  cases x <;> rfl

/-- A sequence of two computations. -/
theorem bind_ok {x : Except ε α} {f : α → Except ε β} {b : β} :
    x >>= f = .ok b ↔ ∃ a, x = .ok a ∧ f a = .ok b := by
  cases x with
  | error e => exact ⟨nofun, nofun⟩
  | ok a => exact ⟨fun h => ⟨a, rfl, h⟩, fun ⟨_, h, h'⟩ => by cases h; exact h'⟩

theorem bind_error {x : Except ε α} {f : α → Except ε β} {e : ε} :
    x >>= f = .error e ↔ x = .error e ∨ ∃ a, x = .ok a ∧ f a = .error e := by
  cases x with
  | error e' => simp [bind, Except.bind]
  | ok a => simp [bind, Except.bind]

@[simp] theorem refuse_error {c : Bool} {e e' : ε} :
    refuse c e = .error e' ↔ c = true ∧ e = e' := by
  cases c <;> simp [refuse]

theorem pure_ok {a b : α} : (pure a : Except ε α) = .ok b ↔ a = b := Except.ok.injEq a b ▸ .rfl

/-- Name an error. -/
def orRefuse (x : Option α) (e : ε) : Except ε α :=
  match x with
  | some a => .ok a
  | none => .error e

@[simp] theorem orRefuse_some (a : α) (e : ε) : orRefuse (some a) e = .ok a := rfl

@[simp] theorem orRefuse_none (e : ε) : orRefuse (none : Option α) e = .error e := rfl

@[simp] theorem orRefuse_ok {x : Option α} {e : ε} {a : α} : orRefuse x e = .ok a ↔ x = some a := by
  cases x with
  | none => exact ⟨nofun, nofun⟩
  | some b => exact ⟨fun h => by cases h; rfl, fun h => by cases h; rfl⟩

@[simp] theorem orRefuse_error {x : Option α} {e e' : ε} :
    orRefuse x e = .error e' ↔ x = none ∧ e = e' := by
  cases x <;> simp [orRefuse]

/-- A check under another name for its errors. -/
theorem mapError_ok {ε' : Type} {x : Except ε α} {f : ε → ε'} {a : α} :
    x.mapError f = .ok a ↔ x = .ok a := by
  cases x <;> simp [Except.mapError]

theorem mapError_error {ε' : Type} {x : Except ε α} {f : ε → ε'} {e' : ε'} :
    x.mapError f = .error e' ↔ ∃ e, x = .error e ∧ f e = e' := by
  cases x <;> simp [Except.mapError]

theorem toOption_eq_some {x : Except ε α} {a : α} : x.toOption = some a ↔ x = .ok a := by
  cases x <;> simp [Except.toOption]

/-- How a call ends without a result: it refuses its argument, or it panics or raises. -/
inductive Halt (ε : Type) where
  | refused (error : ε)
  | crashed
deriving DecidableEq

/-- Check every element with its index, in order, and keep what the checks find. -/
def mapEach (check : Nat → α → Except ε β) (xs : List α) : Except ε (List β) :=
  xs.zipIdx.mapM fun (x, i) => check i x

/-- Check every element with its index, in order. -/
def checkEach (check : Nat → α → Except ε Unit) (xs : List α) : Except ε Unit :=
  xs.zipIdx.forM fun (x, i) => check i x

end VideoInterop
