import Mathlib.Tactic.TypeStar

/-!
# Programs of atomic operations

A program runs on a state that others change between its operations.  It is a
tree: at a node stands an operation, and what comes next depends on the state the
operation was performed in.

`Program.run` performs a program with nothing in between.  `Program.Secured` says
what a program comes to whatever others do meanwhile, as long as they keep to a
relation on states: each operation is performed where it may be, and the result
meets a condition on the state and on the history of the operations, latest first,
each with the state it was performed in.
-/

namespace VideoInterop

/-- Operations one after the other, each chosen by the state the one before it left. -/
inductive Program (σ Op α : Type) where
  | done (a : α)
  | perform (op : Op) (rest : σ → Program σ Op α)

/-- What operations do, where they may be performed, and what others may do
between them. -/
structure Sharing (σ Op : Type) where
  /-- What an operation does to the state. -/
  does : Op → σ → σ
  /-- Where it may be performed. -/
  May : Op → σ → Prop
  /-- What others may do in between. -/
  Rely : σ → σ → Prop
  /-- They may do nothing. -/
  refl : ∀ s, Rely s s
  /-- They may do one thing after another. -/
  trans : ∀ {s s' s''}, Rely s s' → Rely s' s'' → Rely s s''

namespace Program

variable {σ Op α β : Type}

/-- One program after the other. -/
def bind : Program σ Op α → (α → Program σ Op β) → Program σ Op β
  | .done a, f => f a
  | .perform op rest, f => .perform op fun s => (rest s).bind f

/-- Perform a program with nothing in between. -/
def run (does : Op → σ → σ) : Program σ Op α → σ → α × σ
  | .done a, s => (a, s)
  | .perform op rest, s => (rest s).run does (does op s)

variable {w : Sharing σ Op} {Q Q' : α → σ → List (Op × σ) → Prop} {p : Program σ Op α} {s s' : σ}
  {history : List (Op × σ)}

/-- What a program comes to, whatever others do meanwhile. -/
def Secured (w : Sharing σ Op) (Q : α → σ → List (Op × σ) → Prop) :
    Program σ Op α → σ → List (Op × σ) → Prop
  | .done a, s, history => ∀ s', w.Rely s s' → Q a s' history
  | .perform op rest, s, history => ∀ s', w.Rely s s' →
      w.May op s' ∧ (rest s').Secured w Q (w.does op s') ((op, s') :: history)

/-! ## Rules -/

/-- Others do something. -/
theorem Secured.rely (h : p.Secured w Q s history) (hs : w.Rely s s') :
    p.Secured w Q s' history := by
  cases p with
  | done a => exact fun s'' hs'' => h s'' (w.trans hs hs'')
  | perform op rest => exact fun s'' hs'' => h s'' (w.trans hs hs'')

/-- The program performs its operation. -/
theorem Secured.perform {op : Op} {rest : σ → Program σ Op α}
    (h : (Program.perform op rest).Secured w Q s history) :
    w.May op s ∧ (rest s).Secured w Q (w.does op s) ((op, s) :: history) :=
  h s (w.refl s)

theorem Secured.done {a : α} (h : (Program.done a).Secured w Q s history) : Q a s history :=
  h s (w.refl s)

theorem Secured.mono (h : p.Secured w Q s history)
    (hQ : ∀ a s history, Q a s history → Q' a s history) : p.Secured w Q' s history := by
  induction p generalizing s history with
  | done a => exact fun s' hs => hQ _ _ _ (h s' hs)
  | perform op rest ih =>
    intro s' hs
    exact ⟨(h s' hs).1, ih s' (h s' hs).2⟩

theorem Secured.bind {R : β → σ → List (Op × σ) → Prop} {f : α → Program σ Op β}
    (h : p.Secured w Q s history)
    (hf : ∀ a s history, Q a s history → (f a).Secured w R s history) :
    (p.bind f).Secured w R s history := by
  induction p generalizing s history with
  | done a => exact hf _ _ _ h.done
  | perform op rest ih =>
    intro s' hs
    exact ⟨(h s' hs).1, ih s' (h s' hs).2⟩

/-- What a program comes to with nothing in between. -/
theorem Secured.run (h : p.Secured w Q s history) :
    ∃ history', Q (p.run w.does s).1 (p.run w.does s).2 history' := by
  induction p generalizing s history with
  | done a => exact ⟨history, h.done⟩
  | perform op rest ih => exact ih s h.perform.2

/-- What operations keep where they may be performed, a program keeps. -/
theorem Secured.run_keeps {I : σ → Prop} (h : p.Secured w Q s history)
    (hI : ∀ op s, I s → w.May op s → I (w.does op s)) (hs : I s) : I (p.run w.does s).2 := by
  induction p generalizing s history with
  | done a => exact hs
  | perform op rest ih => exact ih s h.perform.2 (hI op s hs h.perform.1)

end Program

end VideoInterop
