import Mathlib.Data.List.MinMax
import VideoInterop.Lib.Claims
import VideoInterop.Lib.FiniteMap
import VideoInterop.Vulkan.Nv12Layout

/-!
# Source caches

A source is a producer's dma-buf, imported once and kept for later frames.  There
are two caches, for NV12 and for packed images.  They differ in their keys and in
what a source holds, so one cache is given here over any keys of class
`SourceKey`.

A cache is looked at and changed in critical sections: `lookup`, `insert` and
`evictStream`.  The claim of a source is an atomic flag that leases also clear
outside the sections.
-/

namespace VideoInterop.Vulkan

/-! ## Keys -/

/-- How an NV12 frame becomes an image that can be sampled. -/
inductive Nv12ImportStrategy where
  /-- It is sampled as it is. -/
  | directSampledImage
  /-- Its planes are copied out of an image. -/
  | directImageToOptimalYuvPlanes
  /-- It is copied out of a buffer into one image. -/
  | linearBufferToOptimalNv12
  /-- Its planes are copied out of a buffer. -/
  | linearBufferToOptimalYuvPlanes
  /-- A shader writes its planes. -/
  | linearBufferToYuvPlanes
  /-- A shader converts it. -/
  | linearBufferToRgba
deriving DecidableEq

/-- How a packed frame becomes an image that can be sampled. -/
inductive PackedImageImportStrategy where
  /-- It is sampled as it is. -/
  | directSampledImage
  /-- A shader unpacks it. -/
  | linearBufferToOptimalBgra
deriving DecidableEq

/-- The order of a packed pixel's channels. -/
inductive PackedImageFormat where
  | rgba8888
  | bgra8888
deriving DecidableEq

/-- The dma-buf a source is made from, and the stream it belongs to. -/
structure SourceIdentity where
  /-- The stream. -/
  streamIncarnation : UInt64
  /-- The device of its inode. -/
  device : UInt64
  /-- The inode. -/
  inode : UInt64
deriving DecidableEq

/-- Where a plane lies. -/
structure Nv12Plane where
  /-- The object it lies in. -/
  objectIndex : UInt32
  /-- Its first byte. -/
  offset : UInt64
  /-- The bytes from one row to the next. -/
  pitch : UInt32
deriving DecidableEq

/-- How an NV12 frame lies in its dma-buf. -/
structure Nv12FrameTopology where
  /-- Columns and rows. -/
  dimensions : UInt32 × UInt32
  /-- How many objects. -/
  objectCount : UInt32
  /-- The length of the object in bytes. -/
  objectSize : UInt64
  /-- How many planes. -/
  planeCount : UInt32
  /-- The luma and the chroma plane. -/
  planes : Vector Nv12Plane 2
  /-- The modifier of the object. -/
  modifier : UInt64
deriving DecidableEq

/-- The topology of a frame in one object. -/
def Nv12SharedObjectLayout.frameTopology (layout : Nv12SharedObjectLayout)
    (dimensions : UInt32 × UInt32) : Nv12FrameTopology where
  dimensions := dimensions
  objectCount := 1
  objectSize := layout.objectSize
  planeCount := 2
  planes := layout.planes.map fun plane => ⟨0, plane.offset, plane.pitch⟩
  modifier := layout.modifier

/-- The key of an NV12 source. -/
structure Nv12SourceCacheKey where
  /-- The dma-buf. -/
  identity : SourceIdentity
  /-- How the frame lies in it. -/
  topology : Nv12FrameTopology
  /-- How it is imported. -/
  strategy : Nv12ImportStrategy
deriving DecidableEq

/-- How a packed frame lies in its dma-buf, and how it is imported. -/
structure PackedSourceTopology where
  /-- Columns and rows. -/
  dimensions : UInt32 × UInt32
  /-- The length of the object in bytes. -/
  objectSize : UInt64
  /-- Its modifier. -/
  modifier : UInt64
  /-- Where the pixels are. -/
  plane : ImportedPlane
  /-- The order of their channels. -/
  format : PackedImageFormat
  /-- How it is imported. -/
  strategy : PackedImageImportStrategy
deriving DecidableEq

/-- The key of a packed source. -/
structure PackedSourceCacheKey where
  /-- The dma-buf. -/
  identity : SourceIdentity
  /-- How it is read. -/
  topology : PackedSourceTopology
deriving DecidableEq

/-- Keys of a cache: an identity and the way its dma-buf is read. -/
class SourceKey (K : Type) [DecidableEq K] where
  /-- The dma-buf of a key. -/
  identity : K → SourceIdentity
  /-- The dma-buf of one key is read in another way than that of the other. -/
  differs : K → K → Bool
  /-- A dma-buf that is read in one way has one key. -/
  eq_of_identity : ∀ {k k' : K}, identity k = identity k' → differs k k' = false → k = k'
  /-- The generation a new source starts with. -/
  firstUse : UInt64 → UInt64
  /-- The name of the cache in errors. -/
  name : String
  /-- The refusal of a source that is claimed. -/
  activeError : String
  /-- The refusal of a dma-buf that another key has. -/
  collisionError : String

instance : SourceKey Nv12SourceCacheKey where
  identity := (·.identity)
  differs existing key := existing.topology ≠ key.topology || existing.strategy ≠ key.strategy
  eq_of_identity := by
    rintro ⟨i, t, s⟩ ⟨i', t', s'⟩ rfl h
    simp only [ne_eq, decide_not, Bool.or_eq_false_iff, Bool.not_eq_eq_eq_not, Bool.not_false,
      decide_eq_true_eq] at h
    rw [h.1, h.2]
  firstUse _ := 0
  name := "NV12"
  activeError := "cached NV12 DMA-BUF reappeared before its previous lease completed"
  collisionError :=
    "cached NV12 DMA-BUF identity reappeared with different topology or read strategy"

instance : SourceKey PackedSourceCacheKey where
  identity := (·.identity)
  differs existing key := existing.topology ≠ key.topology
  eq_of_identity := by
    rintro ⟨i, t⟩ ⟨i', t'⟩ rfl h
    simp only [ne_eq, decide_not, Bool.not_eq_eq_eq_not, Bool.not_false, decide_eq_true_eq] at h
    rw [h]
  firstUse generation := generation
  name := "packed"
  activeError := "cached packed DMA-BUF reappeared before its previous lease completed"
  collisionError := "cached packed DMA-BUF identity reappeared with different topology"

/-! ## The cache -/

/-- A source: its number among all sources ever made, and its allocation. -/
structure CachedSource (A : Type) where
  /-- The number of the source. -/
  id : Nat
  /-- Its memory on the device. -/
  allocation : A

/-- A source and the number of the lease on it. -/
structure SourceLease (A : Type) where
  /-- The source. -/
  source : CachedSource A
  /-- The number of the claim. -/
  lease : Nat

/-- A cache, the number of sources made for it, when each was last claimed, and
their flags with all leases. -/
structure SourceCache (K A : Type) where
  /-- The sources by key. -/
  entries : FMap K (CachedSource A)
  /-- The most there may be. -/
  maxEntries : Nat
  /-- How many sources were made. -/
  made : Nat
  /-- The generation a source was used in last. -/
  lastUsed : Nat → UInt64
  /-- The claimed flags and their leases. -/
  claims : Claims

namespace SourceCache

variable {K A : Type}

/-- A cache without entries. -/
def new (maxEntries : Nat) : SourceCache K A := ⟨∅, maxEntries, 0, fun _ => 0, .empty⟩

/-- Make a source, outside the cache. -/
def make (c : SourceCache K A) (allocation : A) (firstUse : UInt64) :
    SourceCache K A × CachedSource A :=
  ({ c with made := c.made + 1, lastUsed := Function.update c.lastUsed c.made firstUse },
    ⟨c.made, allocation⟩)

/-- Claim a source. -/
def claim (c : SourceCache K A) (source : CachedSource A) (generation : UInt64) :
    Option (SourceCache K A × SourceLease A) :=
  (c.claims.claim source.id).map fun claims =>
    ({ c with claims := claims, lastUsed := Function.update c.lastUsed source.id generation },
      ⟨source, c.claims.next⟩)

/-- The references to a source that is in the cache: its entry and its leases. -/
def strongCount (c : SourceCache K A) (source : CachedSource A) : Nat :=
  (c.claims.alive source.id).length + 1

/-- What a lookup under a key comes to. -/
inductive Lookup (A : Type) where
  | found (lease : SourceLease A)
  | refused (error : String)
  | missing

variable [DecidableEq K]

/-- The key's source is neither claimed nor referred to by a lease. -/
def idle (c : SourceCache K A) (key : K) : Bool :=
  match c.entries.fetch key with
  | some source => !c.claims.claimed source.id && c.strongCount source == 1
  | none => false

variable [SourceKey K]

/-- Another entry has the key's dma-buf, read in another way. -/
def collides (c : SourceCache K A) (key : K) : Bool :=
  c.entries.keys.any fun existing =>
    SourceKey.identity existing = SourceKey.identity key && SourceKey.differs existing key

/-- Look a key up and claim its source. -/
def lookup (c : SourceCache K A) (key : K) (generation : UInt64) : SourceCache K A × Lookup A :=
  match c.entries.fetch key with
  | some source =>
    match c.claim source generation with
    | some (c', lease) => (c', .found lease)
    | none => (c, .refused (SourceKey.activeError K))
  | none => (c, if c.collides key then .refused (SourceKey.collisionError K) else .missing)

/-- When the key's source was last claimed. -/
def age (c : SourceCache K A) (key : K) : Nat :=
  ((c.entries.fetch key).map fun source => (c.lastUsed source.id).toNat).getD 0

/-- Remove the idle entry that has not been claimed for longest.  `order` is the
order in which the hash map lists its keys. -/
def evictOneIdle (c : SourceCache K A) (order : List K) : SourceCache K A :=
  match (order.filter c.idle).argmin c.age with
  | some key => { c with entries := c.entries.delete key }
  | none => c

/-- Insert a new source and claim it, unless the key has an entry by now. -/
def insert (c : SourceCache K A) (order : List K) (key : K) (source : CachedSource A)
    (generation : UInt64) : SourceCache K A × Except String (SourceLease A) :=
  match c.lookup key generation with
  | (c', .found lease) => (c', .ok lease)
  | (c', .refused error) => (c', .error error)
  | (_, .missing) =>
    let c := if c.entries.size ≥ c.maxEntries then c.evictOneIdle order else c
    if c.entries.size ≥ c.maxEntries then
      (c, .error ("Vulkan " ++ SourceKey.name K ++
        s!" source cache is saturated at {c.maxEntries} entries"))
    else
      match c.claim source generation with
      | some (c', lease) => ({ c' with entries := c'.entries.put key source }, .ok lease)
      | none => (c, .error (SourceKey.activeError K))

/-- Remove the idle entries of a stream.  Returns how many were removed and how
many are left of the stream. -/
def evictStream (c : SourceCache K A) (stream : UInt64) : SourceCache K A × (Nat × Nat) :=
  let ofStream := fun key : K => (SourceKey.identity key).streamIncarnation == stream
  let entries := (c.entries.keys.filter fun key => ofStream key && c.idle key).foldl
    FMap.delete c.entries
  ({ c with entries := entries },
    (c.entries.size - entries.size, (entries.keys.filter ofStream).length))

end SourceCache

end VideoInterop.Vulkan
