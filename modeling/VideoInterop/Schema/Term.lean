import VideoInterop.Lib.Checks
import VideoInterop.Lib.Integers

/-!
# Terms

The values the schema is written in, as the language passes them: nothing says
that a list is proper, that a map is a struct or that a struct has all its fields.
-/

namespace VideoInterop.Schema

mutual

/-- A term.  A list is a cell whose tail need not be a list. -/
inductive Term where
  | int (n : Int)
  | atom (name : String)
  | binary (data : Bytes)
  | pid (node : String) (id : Nat)
  | reference (id : Nat)
  | nil
  | cons (head tail : Term)
  | tuple (elements : Terms)
  | map (entries : Entries)
  /-- A float, a function, a port, or a bitstring that is no binary. -/
  | other (id : Nat)
deriving DecidableEq

/-- The elements of a list or a tuple. -/
inductive Terms where
  | nil
  | cons (head : Term) (tail : Terms)
deriving DecidableEq

/-- The entries of a map. -/
inductive Entries where
  | nil
  | cons (key value : Term) (rest : Entries)
deriving DecidableEq

end

namespace Term

/-- `nil`, the atom, which is not the empty list. -/
abbrev nilAtom : Term := .atom "nil"

/-- A pair. -/
abbrev pair (first second : Term) : Term := .tuple (.cons first (.cons second .nil))

end Term

/-- The value at an atom key. -/
def Entries.fetch (name : String) : Entries → Option Term
  | .nil => none
  | .cons key value rest => if key = .atom name then some value else rest.fetch name

namespace Term

/-- The value of a map at an atom key. -/
def fetch (t : Term) (name : String) : Option Term :=
  match t with
  | .map entries => entries.fetch name
  | _ => none

/-- `%module{}` matches. -/
def isStruct (module : String) (t : Term) : Bool := t.fetch "__struct__" == some (.atom module)

/-- The elements of a proper list. -/
def elements? : Term → Option (List Term)
  | .nil => some []
  | .cons head tail => tail.elements?.map (head :: ·)
  | _ => none

/-- `is_integer`. -/
def int? : Term → Option Int
  | .int n => some n
  | _ => none

/-- A proper list. -/
def ofList : List Term → Term
  | [] => .nil
  | t :: ts => .cons t (ofList ts)

@[simp] theorem elements?_ofList (ts : List Term) : (ofList ts).elements? = some ts := by
  induction ts with
  | nil => rfl
  | cons t ts ih => simp [ofList, elements?, ih]

end Term

/-- The entries of a struct. -/
def Entries.ofFields : List (String × Term) → Entries
  | [] => .nil
  | (name, value) :: fields => .cons (.atom name) value (ofFields fields)

/-- A struct. -/
def Term.ofStruct (module : String) (fields : List (String × Term)) : Term :=
  .map (.ofFields (("__struct__", .atom module) :: fields))

@[simp] theorem Entries.fetch_ofFields (name : String) (fields : List (String × Term)) :
    (Entries.ofFields fields).fetch name = fields.lookup name := by
  induction fields with
  | nil => rfl
  | cons field fields ih =>
    obtain ⟨key, value⟩ := field
    simp only [Entries.ofFields, Entries.fetch, ih, List.lookup_cons, Term.atom.injEq]
    by_cases h : key = name
    · simp [h]
    · simp [h, beq_eq_false_iff_ne.mpr (Ne.symm h)]

@[simp] theorem Term.fetch_ofStruct (module name : String) (fields : List (String × Term)) :
    (Term.ofStruct module fields).fetch name =
      (("__struct__", .atom module) :: fields).lookup name := by
  rw [Term.ofStruct, Term.fetch, Entries.fetch_ofFields]

/-! ## Reading -/

/-- `term.name`, which raises when there is no such field. -/
def Term.field {ε : Type} (t : Term) (name : String) : Except (Halt ε) Term :=
  orRefuse (t.fetch name) .crashed

/-- The operand of an arithmetic operation, which raises when it is no number. -/
def Term.integer {ε : Type} (t : Term) : Except (Halt ε) Int := orRefuse t.int? .crashed

end VideoInterop.Schema
