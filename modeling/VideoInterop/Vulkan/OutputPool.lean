import VideoInterop.Lib.Claims
import VideoInterop.Lib.Program
import VideoInterop.Vulkan.SourceCache

/-!
# Output pools

A pool keeps a bounded number of slots, each with the images a staged import
renders into.  An import claims an idle slot of its spec, or makes one, in the
place of an idle slot of another spec if the pool is full.  There are two pools, for
NV12 and for packed images, which differ in the spec of a slot, so one pool is given
here over any type of specs.

Claims hold the lock of the pool.  Leases are released without it, so a claim is a
program of atomic operations.
-/

namespace VideoInterop.Vulkan

/-- The errors of an import. -/
inductive VulkanImportError where
  | poolSaturated (pool : String) (limit : Nat)
  | allocationSizeMismatch (declared observed : UInt64)
  | allocationSizeProbe (error : String)
  | allocationSize (error : String)
  | other (error : String)
deriving DecidableEq

/-- The text of an error. -/
def VulkanImportError.toString : VulkanImportError → String
  | .poolSaturated pool limit => s!"Vulkan {pool} pool is saturated at {limit} slots"
  | .allocationSizeMismatch declared observed =>
    s!"DMA-BUF declared allocation size {declared} does not match " ++
      s!"fd-backed allocation size {observed}"
  | .allocationSizeProbe error => error
  | .allocationSize error => error
  | .other error => error

variable {S A : Type}

/-- A slot: its number among all slots ever made, its spec and its resources. -/
structure OutputSlot (S A : Type) where
  /-- The number of the slot. -/
  id : Nat
  /-- What it was made for. -/
  spec : S
  /-- Its images and views. -/
  resources : A

/-- A slot and the number of the lease on it. -/
structure OutputLease (S A : Type) where
  /-- The slot. -/
  slot : OutputSlot S A
  /-- The number of the claim. -/
  lease : Nat

/-- A pool of output slots. -/
structure OutputPool (S A : Type) where
  /-- The slots. -/
  slots : List (OutputSlot S A)
  /-- The most there may be. -/
  maxSlots : Nat
  /-- How many slots were made. -/
  made : Nat
  /-- The claimed flags and their leases. -/
  claims : Claims

/-- `Vec::swap_remove`. -/
def swapRemove {α : Type} (l : List α) (i : Nat) : List α :=
  match l.getLast? with
  | some last => (l.set i last).dropLast
  | none => l

/-- The atomic operations of a claim.  `push` claims a new slot as well. -/
inductive PoolOp (S A : Type) where
  | compareExchange (slot : Nat)
  | load (slot : Nat)
  | swapRemove (i : Nat)
  | push (spec : S) (resources : A)
  | mark (lease : Nat)
  | clear (lease : Nat)
  | forget (lease : Nat)

namespace OutputPool

/-- A pool without slots. -/
def new (maxSlots : Nat) : OutputPool S A := ⟨[], maxSlots, 0, .empty⟩

/-- What an operation does to the pool. -/
def does (op : PoolOp S A) (pool : OutputPool S A) : OutputPool S A :=
  match op with
  | .compareExchange slot =>
    { pool with claims := (pool.claims.claim slot).getD pool.claims }
  | .load _ => pool
  | .swapRemove i => { pool with slots := Vulkan.swapRemove pool.slots i }
  | .push spec resources =>
    { pool with
      slots := pool.slots ++ [⟨pool.made, spec, resources⟩]
      made := pool.made + 1
      claims := ⟨Function.update pool.claims.claimed pool.made true,
        pool.claims.leases ++ [⟨pool.made, .held⟩]⟩ }
  | .mark lease => { pool with claims := pool.claims.mark lease }
  | .clear lease => { pool with claims := pool.claims.clear lease }
  | .forget lease => { pool with claims := pool.claims.forget lease }

/-- Claim the first slot of a spec that is not claimed. -/
def findSlot [DecidableEq S] (spec : S) :
    List (OutputSlot S A) → Program (OutputPool S A) (PoolOp S A) (Option (OutputLease S A))
  | [] => .done none
  | slot :: slots =>
    if slot.spec = spec then
      .perform (.compareExchange slot.id) fun pool =>
        if pool.claims.claimed slot.id then findSlot spec slots
        else .done (some ⟨slot, pool.claims.next⟩)
    else findSlot spec slots

/-- The position of the first slot of another spec that is not claimed. -/
def findIdle [DecidableEq S] (spec : S) :
    List (OutputSlot S A) → Nat → Program (OutputPool S A) (PoolOp S A) (Option Nat)
  | [], _ => .done none
  | slot :: slots, i =>
    .perform (.load slot.id) fun pool =>
      if !pool.claims.claimed slot.id && slot.spec ≠ spec then .done (some i)
      else findIdle spec slots (i + 1)

/-- The drop of a lease that nobody else has. -/
def dropLease (lease : Nat) : Program (OutputPool S A) (PoolOp S A) Unit :=
  .perform (.mark lease) fun _ =>
    .perform (.clear lease) fun _ =>
      .perform (.forget lease) fun _ => .done ()

/-- Make a slot, claim it and put it into the pool.  `created` is what making its
resources comes to. -/
def pushSlot (spec : S) (created : Except String A) :
    Program (OutputPool S A) (PoolOp S A) (Except VulkanImportError (OutputLease S A)) :=
  match created with
  | .error error => .done (.error (.other error))
  | .ok resources =>
    .perform (.push spec resources) fun pool =>
      .done (.ok ⟨⟨pool.made, spec, resources⟩, pool.claims.next⟩)

/-- Claim a slot of a spec.  A slot that was in the pool is updated first, which
may fail.  `name` is the pool's in an error. -/
def claim [DecidableEq S] (name : String) (pool : OutputPool S A) (spec : S)
    (update : A → Except String Unit) (created : Except String A) :
    Program (OutputPool S A) (PoolOp S A) (Except VulkanImportError (OutputLease S A)) :=
  (findSlot spec pool.slots).bind fun
  | some lease =>
    match update lease.slot.resources with
    | .ok () => .done (.ok lease)
    | .error error => (dropLease lease.lease).bind fun _ => .done (.error (.other error))
  | none =>
    if pool.slots.length ≥ pool.maxSlots then
      (findIdle spec pool.slots 0).bind fun
      | some idle => .perform (.swapRemove idle) fun _ => pushSlot spec created
      | none => .done (.error (.poolSaturated name pool.maxSlots))
    else pushSlot spec created

end OutputPool

/-! ## The two pools -/

/-- The slots of an NV12 output are made for an extent and a strategy. -/
abbrev Nv12OutputPool (A : Type) := OutputPool ((UInt32 × UInt32) × Nv12ImportStrategy) A

/-- The slots of a packed output are made for an extent. -/
abbrev PackedOutputPool (A : Type) := OutputPool (UInt32 × UInt32) A

/-- Point the descriptor set of a slot at a view.  It is left out of a claim without
a view. -/
def updateFor {A View : Type} (update : A → View → Except String Unit) (sourceView : Option View)
    (resources : A) : Except String Unit :=
  match sourceView with
  | some view => update resources view
  | none => .ok ()

/-- Claim an NV12 slot. -/
def Nv12OutputPool.claim {A View : Type} (pool : Nv12OutputPool A) (dimensions : UInt32 × UInt32)
    (strategy : Nv12ImportStrategy) (sourceView : Option View)
    (update : A → View → Except String Unit) (created : Except String A) :=
  OutputPool.claim "NV12 output" pool (dimensions, strategy) (updateFor update sourceView) created

/-- Claim a packed slot.  Pointing its descriptor set at a view cannot fail. -/
def PackedOutputPool.claim {A : Type} (pool : PackedOutputPool A) (dimensions : UInt32 × UInt32)
    (created : Except String A) :=
  OutputPool.claim "packed output" pool dimensions (fun _ => .ok ()) created

end VideoInterop.Vulkan
