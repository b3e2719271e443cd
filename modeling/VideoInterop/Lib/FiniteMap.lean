import Mathlib.Algebra.BigOperators.Group.List.Basic
import Mathlib.Data.List.AList
import Mathlib.Data.List.Perm.Basic

/-!
# Finite maps with one value type

`FMap κ ν` is Mathlib's `AList` at a constant family, under the words of the
`Map` module it models: `fetch`, `put`, `delete`, `size`.  The lemmas are of two
kinds.  A lookup lemma says what `fetch` sees after an update, as an `if` on the
keys.  A size or entry lemma says how an update moves the number of entries and
the entries themselves, up to order.
-/

namespace VideoInterop

/-- A finite map: a list of entries with distinct keys. -/
structure FMap (κ ν : Type) where
  /-- The entries, with the proof that no key is repeated. -/
  toAList : AList fun _ : κ => ν

namespace FMap

variable {κ ν : Type}

/-- The empty map. -/
def empty : FMap κ ν := ⟨∅⟩

instance : EmptyCollection (FMap κ ν) := ⟨empty⟩

instance : Inhabited (FMap κ ν) := ⟨empty⟩

/-- The entries, newest first. -/
def entries (m : FMap κ ν) : List (κ × ν) :=
  m.toAList.entries.map fun e => (e.1, e.2)

/-- The keys, newest first. -/
def keys (m : FMap κ ν) : List κ := m.toAList.keys

/-- The number of entries. -/
def size (m : FMap κ ν) : Nat := m.toAList.keys.length

variable [DecidableEq κ]

/-- The value at a key, if the map has one. -/
def fetch (m : FMap κ ν) (k : κ) : Option ν := m.toAList.lookup k

/-- Add or overwrite an entry. -/
def put (m : FMap κ ν) (k : κ) (v : ν) : FMap κ ν := ⟨m.toAList.insert k v⟩

/-- Remove an entry, if there is one. -/
def delete (m : FMap κ ν) (k : κ) : FMap κ ν := ⟨m.toAList.erase k⟩

/-! ## Lookup -/

@[simp] theorem fetch_empty (k : κ) : (∅ : FMap κ ν).fetch k = none :=
  AList.lookup_empty k

@[simp, grind =] theorem fetch_put (m : FMap κ ν) (k k' : κ) (v : ν) :
    (m.put k v).fetch k' = if k' = k then some v else m.fetch k' := by
  by_cases h : k' = k
  · subst h
    simp [fetch, put]
  · simp [fetch, put, h]

theorem fetch_put_self (m : FMap κ ν) (k : κ) (v : ν) : (m.put k v).fetch k = some v := by
  simp

@[simp, grind =] theorem fetch_delete (m : FMap κ ν) (k k' : κ) :
    (m.delete k).fetch k' = if k' = k then none else m.fetch k' := by
  by_cases h : k' = k
  · subst h
    simp [fetch, delete]
  · simp [fetch, delete, h]

/-- The second update of a key is the one that counts. -/
theorem put_put (m : FMap κ ν) (k : κ) (v v' : ν) : (m.put k v).put k v' = m.put k v' :=
  congrArg FMap.mk (AList.insert_insert m.toAList)

/-- An update of a new key adds one entry. -/
theorem fetch_put_fresh {m : FMap κ ν} {k : κ} (h : m.fetch k = none) (k' : κ) (v v' : ν) :
    (m.put k v).fetch k' = some v' ↔ (k' = k ∧ v' = v) ∨ m.fetch k' = some v' := by
  by_cases hk : k' = k
  · subst hk
    simp [h, eq_comm]
  · simp [hk]

theorem mem_keys {m : FMap κ ν} {k : κ} : k ∈ m.keys ↔ ∃ v, m.fetch k = some v := by
  rw [← Option.isSome_iff_exists]
  exact (AList.lookup_isSome (s := m.toAList)).symm

theorem fetch_eq_none {m : FMap κ ν} {k : κ} : m.fetch k = none ↔ k ∉ m.keys :=
  AList.lookup_eq_none

omit [DecidableEq κ] in
theorem keys_nodup (m : FMap κ ν) : m.keys.Nodup := m.toAList.keys_nodup

/-! ## Size -/

omit [DecidableEq κ] in
@[simp] theorem size_empty : (∅ : FMap κ ν).size = 0 := rfl

omit [DecidableEq κ] in
theorem size_eq_keys (m : FMap κ ν) : m.size = m.keys.length := rfl

theorem keys_put (m : FMap κ ν) (k : κ) (v : ν) : (m.put k v).keys = k :: m.keys.erase k :=
  AList.keys_insert m.toAList

theorem keys_delete (m : FMap κ ν) (k : κ) : (m.delete k).keys = m.keys.erase k :=
  AList.keys_erase k m.toAList

/-- A new key adds one entry. -/
theorem size_put_of_none {m : FMap κ ν} {k : κ} (v : ν) (h : m.fetch k = none) :
    (m.put k v).size = m.size + 1 := by
  rw [size_eq_keys, size_eq_keys, keys_put, List.erase_of_not_mem (fetch_eq_none.mp h)]
  rfl

/-- A known key keeps the number of entries. -/
theorem size_put_of_some {m : FMap κ ν} {k : κ} {v₀ : ν} (v : ν) (h : m.fetch k = some v₀) :
    (m.put k v).size = m.size := by
  have hk : k ∈ m.keys := mem_keys.mpr ⟨v₀, h⟩
  have hpos : 0 < m.keys.length := List.length_pos_of_mem hk
  rw [size_eq_keys, size_eq_keys, keys_put, List.length_cons, List.length_erase_of_mem hk]
  omega

theorem size_put_le (m : FMap κ ν) (k : κ) (v : ν) : (m.put k v).size ≤ m.size + 1 := by
  cases h : m.fetch k with
  | none => exact (size_put_of_none v h).le
  | some v₀ => rw [size_put_of_some v h]; omega

theorem size_delete_of_some {m : FMap κ ν} {k : κ} {v₀ : ν} (h : m.fetch k = some v₀) :
    (m.delete k).size + 1 = m.size := by
  have hk : k ∈ m.keys := mem_keys.mpr ⟨v₀, h⟩
  have hpos : 0 < m.keys.length := List.length_pos_of_mem hk
  rw [size_eq_keys, size_eq_keys, keys_delete, List.length_erase_of_mem hk]
  omega

/-- Removing an absent key changes nothing. -/
theorem delete_of_none {m : FMap κ ν} {k : κ} (h : m.fetch k = none) : m.delete k = m :=
  congrArg FMap.mk (AList.ext (List.kerase_of_notMem_keys (fetch_eq_none.mp h)))

theorem size_delete_le (m : FMap κ ν) (k : κ) : (m.delete k).size ≤ m.size := by
  cases h : m.fetch k with
  | none => rw [delete_of_none h]
  | some v => have := size_delete_of_some h; omega

omit [DecidableEq κ] in
theorem size_eq_zero {m : FMap κ ν} : m.size = 0 ↔ m.keys = [] := List.length_eq_zero_iff

theorem size_eq_zero_iff_fetch {m : FMap κ ν} : m.size = 0 ↔ ∀ k, m.fetch k = none := by
  rw [size_eq_zero, List.eq_nil_iff_forall_not_mem]
  exact forall_congr' fun k => fetch_eq_none.symm

theorem size_pos_of_some {m : FMap κ ν} {k : κ} {v : ν} (h : m.fetch k = some v) :
    0 < m.size := List.length_pos_of_mem (mem_keys.mpr ⟨v, h⟩)

/-! ## Removing many keys -/

/-- `m'` is `m` without the keys in `gone`. -/
def Without (m : FMap κ ν) (gone : κ → Prop) (m' : FMap κ ν) : Prop :=
  ∀ k v, m'.fetch k = some v ↔ m.fetch k = some v ∧ ¬gone k

theorem Without.none {m : FMap κ ν} {gone : κ → Prop}
    (h : ∀ k v, m.fetch k = some v → ¬gone k) : m.Without gone m := fun k v =>
  ⟨fun hk => ⟨hk, h k v hk⟩, And.left⟩

theorem Without.delete (m : FMap κ ν) (k : κ) : m.Without (· = k) (m.delete k) := by
  intro k' v
  by_cases h : k' = k <;> simp [h]

theorem Without.trans {m m' m'' : FMap κ ν} {gone gone' : κ → Prop} (h : m.Without gone m')
    (h' : m'.Without gone' m'') : m.Without (fun k => gone k ∨ gone' k) m'' := by
  intro k v
  rw [h' k v, h k v, and_assoc, not_or]

/-- Which keys are gone matters only for those the map has. -/
theorem Without.congr {m m' : FMap κ ν} {gone gone' : κ → Prop} (h : m.Without gone m')
    (hgone : ∀ k v, m.fetch k = some v → (gone k ↔ gone' k)) : m.Without gone' m' := by
  intro k v
  rw [h k v]
  exact and_congr_right fun hk => not_congr (hgone k v hk)

theorem Without.foldl_delete (keys : List κ) (m : FMap κ ν) :
    m.Without (· ∈ keys) (keys.foldl FMap.delete m) := by
  induction keys generalizing m with
  | nil => exact .none fun k v _ => by simp
  | cons k keys ih =>
      have h := (Without.delete m k).trans (ih (m.delete k))
      exact h.congr fun k' v _ => by simp

theorem size_foldl_delete_le (keys : List κ) (m : FMap κ ν) :
    (keys.foldl FMap.delete m).size ≤ m.size := by
  induction keys generalizing m with
  | nil => exact Nat.le_refl _
  | cons k keys ih => exact (ih (m.delete k)).trans (size_delete_le m k)

/-! ## Entries -/

theorem mem_entries {m : FMap κ ν} {k : κ} {v : ν} :
    (k, v) ∈ m.entries ↔ m.fetch k = some v := by
  have h := AList.mem_lookup_iff (a := k) (b := v) (s := m.toAList)
  rw [fetch, ← Option.mem_def, h]
  simp only [entries, List.mem_map, Prod.mk.injEq]
  constructor
  · rintro ⟨⟨k', v'⟩, hmem, rfl, rfl⟩
    exact hmem
  · intro hmem
    exact ⟨⟨k, v⟩, hmem, rfl, rfl⟩

theorem entries_put (m : FMap κ ν) (k : κ) (v : ν) :
    (m.put k v).entries = (k, v) :: (m.delete k).entries := by
  simp only [entries, put, delete, AList.entries_insert, List.map_cons]
  rfl

/-- A registered entry can be moved to the front. -/
theorem entries_perm_of_some {m : FMap κ ν} {k : κ} {v : ν} (h : m.fetch k = some v) :
    m.entries.Perm ((k, v) :: (m.delete k).entries) := by
  have hmem : k ∈ m.toAList.keys := mem_keys.mpr ⟨v, h⟩
  obtain ⟨b, l₁, l₂, -, hl, hk⟩ := List.exists_of_kerase hmem
  have hb : b = v := by
    have hin : (k, b) ∈ m.entries := by
      simp only [entries, List.mem_map]
      exact ⟨⟨k, b⟩, by rw [hl]; simp, rfl⟩
    exact Option.some.inj ((mem_entries.mp hin).symm.trans h)
  have hd : (m.toAList.erase k).entries = l₁ ++ l₂ := hk
  simp only [entries, delete]
  rw [hd, hl, hb, List.map_append, List.map_append, List.map_cons]
  exact List.perm_middle

end FMap

end VideoInterop
