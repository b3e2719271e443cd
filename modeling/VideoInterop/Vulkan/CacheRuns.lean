import VideoInterop.Vulkan.SourceCache

/-!
# Sharing a source cache

Any number of imports run at once over one cache.  An import takes a generation
from the clock, looks its key up, makes a source if there is none, and inserts it.
The two critical sections are one step each, and so is each atomic operation of a
release; the source is made between the sections and may fail.  Leases can be
released and dropped at any time.

`CacheInv` holds of every world such runs reach.
-/

namespace VideoInterop.Vulkan

variable {K A : Type}

/-! ## Sections -/

namespace SourceCache

/-- `c'` is `c` without some entries whose sources nothing refers to. -/
structure Evicted (c c' : SourceCache K A) [DecidableEq K] : Prop where
  /-- Only entries change. -/
  same : c' = { c with entries := c'.entries }
  /-- No entry is new. -/
  kept : ∀ {key source}, c'.entries.fetch key = some source → c.entries.fetch key = some source
  /-- One that goes is unclaimed and has no lease. -/
  idle : ∀ {key source}, c.entries.fetch key = some source →
    c'.entries.fetch key ≠ some source → c.claims.alive source.id = []
  /-- There are no more than before. -/
  size : c'.entries.size ≤ c.entries.size

/-- What claiming a source changes. -/
theorem claim_eq_some {c c' : SourceCache K A} {source : CachedSource A} {lease : SourceLease A}
    {generation : UInt64} (h : c.claim source generation = some (c', lease)) :
    c.claims.claim source.id = some c'.claims ∧ c'.entries = c.entries ∧
      c'.maxEntries = c.maxEntries ∧ lease = ⟨source, c.claims.next⟩ := by
  obtain ⟨claims, hclaims, heq⟩ := Option.map_eq_some_iff.mp h
  cases heq
  exact ⟨hclaims, rfl, rfl, rfl⟩

variable [DecidableEq K]

/-- An idle source has no lease left. -/
theorem alive_of_idle {c : SourceCache K A} {key : K} {source : CachedSource A}
    (h : c.idle key = true) (hsource : c.entries.fetch key = some source) :
    c.claims.alive source.id = [] := by
  simp only [SourceCache.idle, hsource, strongCount, Bool.and_eq_true, beq_iff_eq,
    Nat.add_eq_right, List.length_eq_zero_iff] at h
  exact h.2

theorem Evicted.refl (c : SourceCache K A) : c.Evicted c :=
  ⟨rfl, id, fun h h' => absurd h h', Nat.le_refl _⟩

theorem Evicted.claims {c c' : SourceCache K A} (h : c.Evicted c') : c'.claims = c.claims := by
  rw [h.same]

theorem Evicted.maxEntries {c c' : SourceCache K A} (h : c.Evicted c') :
    c'.maxEntries = c.maxEntries := by rw [h.same]

theorem evicted_evictOneIdle (c : SourceCache K A) (order : List K) :
    c.Evicted (c.evictOneIdle order) := by
  rw [evictOneIdle]
  split
  · next key hkey =>
    have hidle : c.idle key = true := (List.mem_filter.mp (List.argmin_mem hkey)).2
    refine ⟨rfl, fun {key' source} h => ?_, fun {key' source} h h' => ?_, FMap.size_delete_le _ _⟩
    · rw [FMap.fetch_delete] at h
      split at h
      · cases h
      · exact h
    · rw [FMap.fetch_delete] at h'
      split at h'
      · next heq => exact alive_of_idle (heq ▸ hidle) h
      · exact absurd h h'
  · exact .refl c

variable [SourceKey K]

theorem evicted_evictStream (c : SourceCache K A) (stream : UInt64) :
    c.Evicted (c.evictStream stream).1 := by
  have hwithout := FMap.Without.foldl_delete (c.entries.keys.filter fun key =>
    (SourceKey.identity key).streamIncarnation == stream && c.idle key) c.entries
  refine ⟨rfl, fun h => ((hwithout _ _).mp h).1, fun {key source} h h' => ?_, ?_⟩
  · have hgone := mt (hwithout key source).mpr h'
    rw [not_and, Classical.not_not] at hgone
    have hidle := (List.mem_filter.mp (hgone h)).2
    exact alive_of_idle (Bool.and_eq_true_iff.mp hidle).2 h
  · exact FMap.size_foldl_delete_le _ _

/-- What a lookup does: it claims the key's source, or changes nothing. -/
theorem lookup_cases (c : SourceCache K A) (key : K) (generation : UInt64) :
    (∃ source c' lease, c.entries.fetch key = some source ∧
      c.claim source generation = some (c', lease) ∧
        c.lookup key generation = (c', .found lease)) ∨
    (∃ error, c.lookup key generation = (c, .refused error)) ∨
    (c.entries.fetch key = none ∧ c.collides key = false ∧
      c.lookup key generation = (c, .missing)) := by
  rw [lookup]
  cases hfetch : c.entries.fetch key with
  | some source =>
    cases hclaim : c.claim source generation with
    | some claimed => exact .inl ⟨source, claimed.1, claimed.2, rfl, hclaim, by simp only [hclaim]⟩
    | none => exact .inr (.inl ⟨SourceKey.activeError K, by simp only [hclaim]⟩)
  | none => cases hcollides : c.collides key with
    | true => exact .inr (.inl ⟨_, rfl⟩)
    | false => exact .inr (.inr ⟨rfl, rfl, rfl⟩)

/-- What an insertion does: it claims the source that the key has by now, adds
and claims the new one, or claims nothing. -/
theorem insert_cases (c : SourceCache K A) (order : List K) (key : K)
    (source : CachedSource A) (generation : UInt64) :
    (∃ source' c' lease, c.entries.fetch key = some source' ∧
      c.claim source' generation = some (c', lease) ∧
        c.insert order key source generation = (c', .ok lease)) ∨
    (∃ c' error, c.Evicted c' ∧ c.insert order key source generation = (c', .error error)) ∨
    (∃ c' c'' lease, c.entries.fetch key = none ∧ c.collides key = false ∧ c.Evicted c' ∧
      c'.entries.size < c.maxEntries ∧ c'.claim source generation = some (c'', lease) ∧
        c.insert order key source generation =
          ({ c'' with entries := c''.entries.put key source }, .ok lease)) := by
  rcases c.lookup_cases key generation with ⟨source', c', lease, hfetch, hclaim, hlookup⟩ |
    ⟨error, hlookup⟩ | ⟨hfetch, hcollides, hlookup⟩
  · exact .inl ⟨source', c', lease, hfetch, hclaim, by simp only [insert, hlookup]⟩
  · exact .inr (.inl ⟨c, error, .refl c, by simp only [insert, hlookup]⟩)
  · -- The key is missing: room is made if there is none.
    have hroom : ∃ c', c.Evicted c' ∧
        (if c.entries.size ≥ c.maxEntries then c.evictOneIdle order else c) = c' := by
      split
      · exact ⟨_, c.evicted_evictOneIdle order, rfl⟩
      · exact ⟨c, .refl c, rfl⟩
    obtain ⟨c', hevicted, hc'⟩ := hroom
    simp only [insert, hlookup, hc']
    by_cases hfull : c'.entries.size ≥ c'.maxEntries
    · exact .inr (.inl ⟨c', _, hevicted, by rw [if_pos hfull]⟩)
    · rw [if_neg hfull]
      cases hclaim : c'.claim source generation with
      | none => exact .inr (.inl ⟨c', _, hevicted, rfl⟩)
      | some claimed =>
        refine .inr (.inr ⟨c', claimed.1, claimed.2, hfetch, hcollides, hevicted, ?_, hclaim, rfl⟩)
        rw [← hevicted.maxEntries]
        exact Nat.lt_of_not_le hfull

end SourceCache

/-! ## Worlds -/

/-- How far an import has come with its source. -/
inductive ImportPhase (K A : Type) where
  | starting (key : K)
  | looking (key : K) (generation : UInt64)
  | creating (key : K) (generation : UInt64)
  | inserting (key : K) (generation : UInt64) (source : CachedSource A)
  /-- It has its source and goes on. -/
  | holding (lease : SourceLease A)
  | returned (lease : SourceLease A)
  /-- It fails with its source, whose lease is dropped. -/
  | unwinding (lease : SourceLease A) (error : String)
  /-- It has failed, and had this lease. -/
  | failed (lease : Option (SourceLease A)) (error : String)

/-- A cache, the clock of its generations, and all imports so far. -/
structure CacheWorld (K A : Type) where
  /-- The cache. -/
  cache : SourceCache K A
  /-- The next generation. -/
  clock : UInt64
  /-- The imports in the order they began. -/
  imports : List (ImportPhase K A)

/-- A step of an import, of a lease, or of the owner of the cache. -/
inductive CacheAction (K A : Type) where
  | begin (key : K)
  | tick (t : Nat)
  | lookup (t : Nat)
  | create (t : Nat) (allocation : Except String A)
  | insert (t : Nat) (order : List K)
  | succeed (t : Nat)
  | fail (t : Nat) (error : String)
  | unwound (t : Nat)
  | mark (lease : Nat)
  | clear (lease : Nat)
  | forget (lease : Nat)
  | evictStream (stream : UInt64)

namespace CacheWorld

/-- An empty cache, with no imports. -/
def new (maxEntries : Nat) : CacheWorld K A := ⟨.new maxEntries, 0, []⟩

/-- Move an import on. -/
def advance (w : CacheWorld K A) (t : Nat) (phase : ImportPhase K A) : CacheWorld K A :=
  { w with imports := w.imports.set t phase }

/-- The world with other claims. -/
def withClaims (w : CacheWorld K A) (claims : Claims) : CacheWorld K A :=
  { w with cache := { w.cache with claims := claims } }

variable [DecidableEq K] [SourceKey K]

/-- Where an import goes from its lookup. -/
def afterLookup (key : K) (generation : UInt64) : SourceCache.Lookup A → ImportPhase K A
  | .found lease => .holding lease
  | .refused error => .failed none error
  | .missing => .creating key generation

/-- Where it goes from its insertion. -/
def afterInsert : Except String (SourceLease A) → ImportPhase K A
  | .ok lease => .holding lease
  | .error error => .failed none error

/-- The step an action makes, if it can be made. -/
def step (w : CacheWorld K A) : CacheAction K A → Option (CacheWorld K A)
  | .begin key => some { w with imports := w.imports ++ [.starting key] }
  | .tick t => match w.imports[t]? with
    | some (.starting key) => some { w.advance t (.looking key w.clock) with clock := w.clock + 1 }
    | _ => none
  | .lookup t => match w.imports[t]? with
    | some (.looking key generation) =>
      let (cache, found) := w.cache.lookup key generation
      some { w.advance t (afterLookup key generation found) with cache := cache }
    | _ => none
  | .create t allocation => match w.imports[t]? with
    | some (.creating key generation) => match allocation with
      | .error error => some (w.advance t (.failed none error))
      | .ok allocation =>
        let (cache, source) := w.cache.make allocation (SourceKey.firstUse K generation)
        some { w.advance t (.inserting key generation source) with cache := cache }
    | _ => none
  | .insert t order => match w.imports[t]? with
    | some (.inserting key generation source) =>
      let (cache, inserted) := w.cache.insert order key source generation
      if order.Perm w.cache.entries.keys then
        some { w.advance t (afterInsert inserted) with cache := cache }
      else none
    | _ => none
  | .succeed t => match w.imports[t]? with
    | some (.holding lease) => some (w.advance t (.returned lease))
    | _ => none
  | .fail t error => match w.imports[t]? with
    | some (.holding lease) => some (w.advance t (.unwinding lease error))
    | _ => none
  | .unwound t => match w.imports[t]? with
    | some (.unwinding lease error) =>
      if (w.cache.claims.leases[lease.lease]?).map (·.phase) = some .gone then
        some (w.advance t (.failed (some lease) error))
      else none
    | _ => none
  | .mark lease => some (w.withClaims (w.cache.claims.mark lease))
  | .clear lease => some (w.withClaims (w.cache.claims.clear lease))
  | .forget lease => some (w.withClaims (w.cache.claims.forget lease))
  | .evictStream stream => some { w with cache := (w.cache.evictStream stream).1 }

/-- The worlds that runs over a cache of this size reach. -/
inductive Reachable (maxEntries : Nat) : CacheWorld K A → Prop
  | new : Reachable maxEntries (.new maxEntries)
  | step {w w' : CacheWorld K A} {action : CacheAction K A} (h : Reachable maxEntries w)
      (hstep : w.step action = some w') : Reachable maxEntries w'

/-! ## What a step changes -/

/-- A step evicts, claims a source that is in the cache, makes one, inserts and
claims one, or moves a lease on. -/
inductive Change (c : SourceCache K A) : SourceCache K A → Prop
  | evicted {c' : SourceCache K A} (h : c.Evicted c') : Change c c'
  | claimed {key : K} {source : CachedSource A} {generation : UInt64} {c' : SourceCache K A}
      {lease : SourceLease A} (hfetch : c.entries.fetch key = some source)
      (h : c.claim source generation = some (c', lease)) : Change c c'
  | made (allocation : A) (firstUse : UInt64) : Change c (c.make allocation firstUse).1
  | inserted {key : K} {source : CachedSource A} {generation : UInt64} {c' c'' : SourceCache K A}
      {lease : SourceLease A} (hfetch : c.entries.fetch key = none)
      (hcollides : c.collides key = false) (hevicted : c.Evicted c')
      (hroom : c'.entries.size < c.maxEntries)
      (h : c'.claim source generation = some (c'', lease)) :
      Change c { c'' with entries := c''.entries.put key source }
  | lease {k : Nat} {claims : Claims} (h : c.claims.Release k claims) :
    Change c { c with claims := claims }

theorem step_change {w w' : CacheWorld K A} {action : CacheAction K A}
    (h : w.step action = some w') : Change w.cache w'.cache := by
  have hsame : Change w.cache w.cache := .evicted (.refl _)
  cases action with
  | begin key =>
    cases h
    exact hsame
  | tick t =>
    simp only [step] at h
    split at h
    · cases h
      exact hsame
    · cases h
  | lookup t =>
    simp only [step] at h
    split at h
    · next key generation _ =>
      cases h
      rcases w.cache.lookup_cases key generation with ⟨source, c', lease, hfetch, hclaim, heq⟩ |
        ⟨error, heq⟩ | ⟨-, -, heq⟩
      · simp only [heq]
        exact .claimed hfetch hclaim
      · simpa only [heq] using hsame
      · simpa only [heq] using hsame
    · cases h
  | create t allocation =>
    simp only [step] at h
    split at h
    · cases allocation with
      | error error =>
        cases h
        exact hsame
      | ok allocation =>
        cases h
        exact .made allocation _
    · cases h
  | insert t order =>
    simp only [step] at h
    split at h
    · next key generation source _ =>
      split at h
      · cases h
        rcases w.cache.insert_cases order key source generation with
          ⟨source', c', lease, hfetch, hclaim, heq⟩ | ⟨c', error, hevicted, heq⟩ |
          ⟨c', c'', lease, hfetch, hcollides, hevicted, hroom, hclaim, heq⟩
        · simp only [heq]
          exact .claimed hfetch hclaim
        · simp only [heq]
          exact .evicted hevicted
        · simp only [heq]
          exact .inserted hfetch hcollides hevicted hroom hclaim
      · cases h
    · cases h
  | succeed t =>
    simp only [step] at h
    split at h
    · cases h
      exact hsame
    · cases h
  | fail t error =>
    simp only [step] at h
    split at h
    · cases h
      exact hsame
    · cases h
  | unwound t =>
    simp only [step] at h
    split at h
    · split at h
      · cases h
        exact hsame
      · cases h
    · cases h
  | mark lease =>
    cases h
    exact .lease .mark
  | clear lease =>
    cases h
    exact .lease .clear
  | forget lease =>
    cases h
    exact .lease .forget
  | evictStream stream =>
    cases h
    exact .evicted (w.cache.evicted_evictStream stream)

/-- What a step does to the flags and leases. -/
theorem Change.claims {c c' : SourceCache K A} (h : Change c c') : c.claims.Step c'.claims := by
  cases h with
  | evicted h =>
    rw [h.claims]
    exact .same
  | claimed _ h => exact .claim (SourceCache.claim_eq_some h).1
  | made allocation firstUse => exact .same
  | inserted _ _ hevicted _ h =>
    have hclaim := (SourceCache.claim_eq_some h).1
    rw [hevicted.claims] at hclaim
    exact .claim hclaim
  | lease h => exact .release h

/-- An entry that a step removes is referred to by no lease. -/
theorem Change.evicted_idle {c c' : SourceCache K A} (h : Change c c') {key : K}
    {source : CachedSource A} (hfetch : c.entries.fetch key = some source)
    (hgone : c'.entries.fetch key ≠ some source) : c.claims.alive source.id = [] := by
  cases h with
  | evicted h => exact h.idle hfetch hgone
  | claimed _ h =>
    rw [(SourceCache.claim_eq_some h).2.1] at hgone
    exact absurd hfetch hgone
  | made allocation firstUse => exact absurd hfetch hgone
  | @inserted key' _ _ c₁ c₂ _ hnone _ hevicted _ h =>
    have hne : key ≠ key' := by
      rintro rfl
      rw [hnone] at hfetch
      cases hfetch
    refine hevicted.idle hfetch fun hkept => hgone ?_
    show (c₂.entries.put key' _).fetch key = some source
    rw [FMap.fetch_put, if_neg hne, (SourceCache.claim_eq_some h).2.1]
    exact hkept
  | lease h => exact absurd hfetch hgone

/-- Sources that leases refer to stay in the cache. -/
theorem Change.cached {c c' : SourceCache K A} (h : Change c c')
    (hc : ∀ {k i : Nat} {phase : LeasePhase}, c.claims.leases[k]? = some ⟨i, phase⟩ →
      phase ≠ .gone → ∃ key source, c.entries.fetch key = some source ∧ source.id = i)
    {k i : Nat} {phase : LeasePhase} (hk : c'.claims.leases[k]? = some ⟨i, phase⟩)
    (hphase : phase ≠ .gone) :
    ∃ key source, c'.entries.fetch key = some source ∧ source.id = i := by
  -- A lease that was there before keeps its entry.
  have hold : ∀ {phase' : LeasePhase}, c.claims.leases[k]? = some ⟨i, phase'⟩ → phase' ≠ .gone →
      ∃ key source, c'.entries.fetch key = some source ∧ source.id = i := by
    intro phase' hk' hphase'
    obtain ⟨key, source, hkey, rfl⟩ := hc hk' hphase'
    refine ⟨key, source, Classical.byContradiction fun hgone => ?_, rfl⟩
    have halive : (⟨source.id, phase'⟩ : Lease) ∈ c.claims.alive source.id :=
      List.mem_filter.mpr ⟨List.mem_of_getElem? hk', by simpa using hphase'⟩
    rw [h.evicted_idle hkey hgone] at halive
    cases halive
  -- A lease that is made now is on a source in the cache.
  have hclaim : ∀ {claims : Claims} {j : Nat}, claims = c.claims →
      claims.claim j = some c'.claims →
      (∃ key source, c'.entries.fetch key = some source ∧ source.id = j) →
        ∃ key source, c'.entries.fetch key = some source ∧ source.id = i := by
    rintro _ j rfl hclaim hnew
    by_cases hnext : k = c.claims.next
    · rw [hnext, (Claims.next_claim hclaim).1] at hk
      cases hk
      exact hnew
    · rw [Claims.leases_claim hclaim hnext] at hk
      exact hold hk hphase
  cases h with
  | evicted h =>
    rw [h.claims] at hk
    exact hold hk hphase
  | claimed hfetch h =>
    obtain ⟨hc', hentries, -⟩ := SourceCache.claim_eq_some h
    exact hclaim rfl hc' ⟨_, _, hentries ▸ hfetch, rfl⟩
  | made allocation firstUse => exact hold hk hphase
  | inserted _ _ hevicted _ h =>
    exact hclaim hevicted.claims (SourceCache.claim_eq_some h).1
      ⟨_, _, FMap.fetch_put_self _ _ _, rfl⟩
  | lease h =>
    obtain ⟨phase', hk', hphase'⟩ := h.alive hk hphase
    exact hold hk' hphase'

/-! ## The invariant -/

/-- What holds of every world that runs reach. -/
structure CacheInv (maxEntries : Nat) (w : CacheWorld K A) : Prop where
  /-- The limit is the one given. -/
  limit : w.cache.maxEntries = maxEntries
  /-- There are no more entries. -/
  size : w.cache.entries.size ≤ maxEntries
  /-- A dma-buf has one key. -/
  identity : ∀ {key key' : K} {source source' : CachedSource A},
    w.cache.entries.fetch key = some source →
    w.cache.entries.fetch key' = some source' →
      SourceKey.identity key = SourceKey.identity key' → key = key'
  /-- Flags and leases agree. -/
  sound : w.cache.claims.Sound
  /-- A source that a lease refers to is in the cache. -/
  cached : ∀ {k i : Nat} {phase : LeasePhase},
    w.cache.claims.leases[k]? = some ⟨i, phase⟩ → phase ≠ .gone →
      ∃ key source, w.cache.entries.fetch key = some source ∧ source.id = i
  /-- An import that failed with its source has dropped the lease. -/
  failed : ∀ {t : Nat} {lease : SourceLease A} {error : String},
    w.imports[t]? = some (.failed (some lease) error) →
      ∃ i, w.cache.claims.leases[lease.lease]? = some ⟨i, .gone⟩

theorem CacheInv.new (maxEntries : Nat) :
    CacheInv maxEntries (CacheWorld.new (K := K) (A := A) maxEntries) where
  limit := rfl
  size := Nat.zero_le _
  identity := nofun
  sound := Claims.empty_sound
  cached := nofun
  failed := nofun

omit [DecidableEq K] [SourceKey K] in
/-- What an import is at after one of them has moved on. -/
theorem imports_advance {w : CacheWorld K A} {t t' : Nat} {phase phase' : ImportPhase K A}
    (h : (w.advance t' phase).imports[t]? = some phase') :
    phase' = phase ∨ w.imports[t]? = some phase' := by
  rw [advance, List.getElem?_set] at h
  split at h
  · split at h
    · exact .inl (Option.some.inj h).symm
    · cases h
  · exact .inr h

/-- A step at which an import fails changes no flag and no lease.  If the import
had a source, its lease is gone. -/
theorem step_failed {w w' : CacheWorld K A} {action : CacheAction K A}
    (h : w.step action = some w') {t : Nat} {lease : Option (SourceLease A)} {error : String}
    (ht : w'.imports[t]? = some (.failed lease error)) :
    w.imports[t]? = some (.failed lease error) ∨
      w'.cache.claims = w.cache.claims ∧
        ∀ l ∈ lease, ∃ i, w.cache.claims.leases[l.lease]? = some ⟨i, .gone⟩ := by
  cases action with
  | begin key =>
    cases h
    rw [List.getElem?_append] at ht
    split at ht
    · exact .inl ht
    · rw [List.getElem?_singleton] at ht
      split at ht <;> cases ht
  | tick t' =>
    simp only [step] at h
    split at h
    · cases h
      exact .inl ((imports_advance ht).resolve_left nofun)
    · cases h
  | lookup t' =>
    simp only [step] at h
    split at h
    · next key generation _ =>
      cases h
      rcases imports_advance ht with hphase | hold
      · -- It fails at its lookup, which has claimed nothing then.
        rcases w.cache.lookup_cases key generation with ⟨source, c', lease', -, -, heq⟩ |
          ⟨error', heq⟩ | ⟨-, -, heq⟩
        · rw [heq] at hphase
          cases hphase
        · rw [heq] at hphase ⊢
          cases hphase
          exact .inr ⟨rfl, nofun⟩
        · rw [heq] at hphase
          cases hphase
      · exact .inl hold
    · cases h
  | create t' allocation =>
    simp only [step] at h
    split at h
    · cases allocation with
      | error error' =>
        cases h
        rcases imports_advance ht with hphase | hold
        · cases hphase
          exact .inr ⟨rfl, nofun⟩
        · exact .inl hold
      | ok allocation =>
        cases h
        exact .inl ((imports_advance ht).resolve_left nofun)
    · cases h
  | insert t' order =>
    simp only [step] at h
    split at h
    · next key generation source _ =>
      split at h
      · cases h
        rcases imports_advance ht with hphase | hold
        · -- It fails at its insertion, which has claimed nothing then.
          rcases w.cache.insert_cases order key source generation with
            ⟨source', c', lease', -, -, heq⟩ | ⟨c', error', hevicted, heq⟩ |
            ⟨c', c'', lease', -, -, -, -, -, heq⟩
          · rw [heq] at hphase
            cases hphase
          · simp only [heq] at hphase ⊢
            cases hphase
            exact .inr ⟨hevicted.claims, nofun⟩
          · rw [heq] at hphase
            cases hphase
        · exact .inl hold
      · cases h
    · cases h
  | succeed t' =>
    simp only [step] at h
    split at h
    · cases h
      exact .inl ((imports_advance ht).resolve_left nofun)
    · cases h
  | fail t' error' =>
    simp only [step] at h
    split at h
    · cases h
      exact .inl ((imports_advance ht).resolve_left nofun)
    · cases h
  | unwound t' =>
    simp only [step] at h
    split at h
    · next lease' error' _ =>
      split at h
      · next hgone =>
        cases h
        rcases imports_advance ht with hphase | hold
        · cases hphase
          obtain ⟨⟨i, phase⟩, hlease, hphase⟩ := Option.map_eq_some_iff.mp hgone
          cases hphase
          refine .inr ⟨rfl, ?_⟩
          rintro l ⟨⟩
          exact ⟨i, hlease⟩
        · exact .inl hold
      · cases h
    · cases h
  | mark lease' =>
    cases h
    exact .inl ht
  | clear lease' =>
    cases h
    exact .inl ht
  | forget lease' =>
    cases h
    exact .inl ht
  | evictStream stream =>
    cases h
    exact .inl ht

theorem CacheInv.step {maxEntries : Nat} {w w' : CacheWorld K A} {action : CacheAction K A}
    (hw : CacheInv maxEntries w) (h : w.step action = some w') : CacheInv maxEntries w' := by
  have hchange := step_change h
  refine ⟨?_, ?_, ?_, hchange.claims.sound hw.sound, ?_, ?_⟩
  · generalize w'.cache = c' at hchange
    cases hchange with
    | evicted h => rw [h.maxEntries, hw.limit]
    | claimed _ h => rw [(SourceCache.claim_eq_some h).2.2.1, hw.limit]
    | made => exact hw.limit
    | inserted _ _ hevicted _ h =>
      show SourceCache.maxEntries _ = _
      rw [(SourceCache.claim_eq_some h).2.2.1, hevicted.maxEntries, hw.limit]
    | lease => exact hw.limit
  · generalize w'.cache = c' at hchange
    cases hchange with
    | evicted h => exact h.size.trans hw.size
    | claimed _ h => exact (SourceCache.claim_eq_some h).2.1 ▸ hw.size
    | made => exact hw.size
    | inserted _ _ _ hroom h =>
      rw [hw.limit] at hroom
      refine (FMap.size_put_le _ _ _).trans ?_
      rw [(SourceCache.claim_eq_some h).2.1]
      exact hroom
    | lease => exact hw.size
  · generalize w'.cache = c' at hchange
    cases hchange with
    | evicted h => exact fun hkey hkey' => hw.identity (h.kept hkey) (h.kept hkey')
    | claimed _ h =>
      rw [(SourceCache.claim_eq_some h).2.1]
      exact hw.identity
    | made => exact hw.identity
    | @inserted new added _ c₁ c₂ _ hnone hcollides hevicted _ h =>
      -- An entry with the new key's dma-buf would have been a collision.
      have hnew : ∀ {key source}, c₁.entries.fetch key = some source →
          SourceKey.identity key ≠ SourceKey.identity new := by
        intro key source hkey heq
        have hold := hevicted.kept hkey
        have hno := List.any_eq_false.mp hcollides key (FMap.mem_keys.mpr ⟨source, hold⟩)
        simp only [heq, decide_true, Bool.true_and, Bool.not_eq_true] at hno
        rw [SourceKey.eq_of_identity heq hno, hnone] at hold
        cases hold
      intro key key' source source' hkey hkey' heq
      have hput : ∀ {key source}, (c₂.entries.put new added).fetch key = some source →
          key = new ∨ c₁.entries.fetch key = some source := by
        intro key source hkey
        rw [FMap.fetch_put, (SourceCache.claim_eq_some h).2.1] at hkey
        split at hkey
        · exact .inl ‹_›
        · exact .inr hkey
      rcases hput hkey with rfl | hkey
      · rcases hput hkey' with hsame | hkey'
        · exact hsame.symm
        · exact absurd heq.symm (hnew hkey')
      · rcases hput hkey' with hsame | hkey'
        · exact absurd (hsame ▸ heq) (hnew hkey)
        · exact hw.identity (hevicted.kept hkey) (hevicted.kept hkey') heq
    | lease => exact hw.identity
  · exact hchange.cached hw.cached
  · intro t lease error ht
    rcases step_failed h ht with hold | ⟨heq, hgone⟩
    · obtain ⟨i, hgone⟩ := hw.failed hold
      exact ⟨i, hchange.claims.gone hgone⟩
    · rw [heq]
      exact hgone lease rfl

theorem Reachable.inv {maxEntries : Nat} {w : CacheWorld K A} (h : Reachable maxEntries w) :
    CacheInv maxEntries w := by
  induction h with
  | new => exact .new maxEntries
  | step _ hstep ih => exact ih.step hstep

/-- Worlds that a list of actions leads to are reached. -/
theorem Reachable.run {maxEntries : Nat} {w w' : CacheWorld K A} {actions : List (CacheAction K A)}
    (h : Reachable maxEntries w) (hrun : actions.foldlM CacheWorld.step w = some w') :
    Reachable maxEntries w' := by
  induction actions generalizing w with
  | nil =>
    cases hrun
    exact h
  | cons action actions ih =>
    obtain ⟨w₁, hstep, hrun⟩ := Option.bind_eq_some_iff.mp hrun
    exact ih (h.step hstep) hrun

/-! ## What imports can rely on -/

/-- What the imports of a shared cache can rely on in a world. -/
structure Safe (maxEntries : Nat) (w : CacheWorld K A) : Prop where
  /-- There are no more entries than allowed. -/
  size : w.cache.entries.size ≤ maxEntries
  /-- There is one entry at most for a dma-buf of a stream. -/
  identity : ∀ {key key' : K} {source source' : CachedSource A},
    w.cache.entries.fetch key = some source →
    w.cache.entries.fetch key' = some source' →
      SourceKey.identity key = SourceKey.identity key' → key = key'
  /-- A lease that is not released is on an entry, which is claimed. -/
  held : ∀ {k i : Nat}, w.cache.claims.leases[k]? = some ⟨i, .held⟩ →
    (∃ key source, w.cache.entries.fetch key = some source ∧ source.id = i) ∧
      w.cache.claims.claimed i = true
  /-- There is one such lease at most. -/
  unique : ∀ {k k' i : Nat}, w.cache.claims.leases[k]? = some ⟨i, .held⟩ →
    w.cache.claims.leases[k']? = some ⟨i, .held⟩ → k = k'
  /-- A claimed entry without such a lease has one whose release is at work. -/
  releasing : ∀ {key : K} {source : CachedSource A}, w.cache.entries.fetch key = some source →
    w.cache.claims.claimed source.id = true →
      (∀ k : Nat, w.cache.claims.leases[k]? ≠ some ⟨source.id, .held⟩) →
        ∃! k : Nat, w.cache.claims.leases[k]? = some ⟨source.id, .releasing⟩
  /-- Flags do not depend on the lease of an import that failed. -/
  failed : ∀ {t : Nat} {lease : SourceLease A} {error : String},
    w.imports[t]? = some (.failed (some lease) error) →
      (∃ i, w.cache.claims.leases[lease.lease]? = some ⟨i, .gone⟩) ∧
        ∀ i, w.cache.claims.claimed i = true ↔ ∃ k ≠ lease.lease, w.cache.claims.Owns k i

/-- What they can rely on when it makes a step. -/
structure SafeStep (w : CacheWorld K A) (action : CacheAction K A) (w' : CacheWorld K A) :
    Prop where
  /-- An entry with a lease, released or not, stays. -/
  evicted : ∀ {key : K} {source : CachedSource A}, w.cache.entries.fetch key = some source →
    w'.cache.entries.fetch key ≠ some source →
      ∀ {k : Nat} {phase : LeasePhase}, w.cache.claims.leases[k]? = some ⟨source.id, phase⟩ →
        phase = .gone
  /-- An import fails without a change of any flag. -/
  failed : ∀ {t : Nat} {lease : Option (SourceLease A)} {error : String},
    w.imports[t]? ≠ some (.failed lease error) → w'.imports[t]? = some (.failed lease error) →
      w'.cache.claims.claimed = w.cache.claims.claimed
  /-- A flag goes on with a new lease, and off with the release of the only one
  that is not released. -/
  turnedOn : ∀ {i : Nat}, w.cache.claims.claimed i = false → w'.cache.claims.claimed i = true →
    w.cache.claims.claim i = some w'.cache.claims
  /-- A flag is turned off by the release of its lease only. -/
  turnedOff : ∀ {i : Nat}, w.cache.claims.claimed i = true → w'.cache.claims.claimed i = false →
    ∃ k, w'.cache.claims = w.cache.claims.clear k ∧
      w.cache.claims.leases[k]? = some ⟨i, .releasing⟩ ∧
        ∀ k', w.cache.claims.Owns k' i → k' = k
  /-- A release of a released lease changes no flag. -/
  released : ∀ {k i : Nat}, action = .mark k ∨ action = .clear k ∨ action = .forget k →
    w.cache.claims.leases[k]? = some ⟨i, .released⟩ ∨
        w.cache.claims.leases[k]? = some ⟨i, .gone⟩ →
      w'.cache.claims.claimed = w.cache.claims.claimed

theorem CacheInv.safe {maxEntries : Nat} {w : CacheWorld K A} (hw : CacheInv maxEntries w) :
    Safe maxEntries w where
  size := hw.size
  identity := hw.identity
  held := fun hk => ⟨hw.cached hk (by decide), (hw.sound.flag _).mpr ⟨_, .inl hk⟩⟩
  unique := fun hk hk' => hw.sound.unique (.inl hk) (.inl hk')
  releasing := by
    intro key source _ hclaimed hnone
    obtain ⟨k, hk⟩ := (hw.sound.flag source.id).mp hclaimed
    have hreleasing := hk.resolve_left (hnone k)
    exact ⟨k, hreleasing, fun k' hk' => hw.sound.unique (.inr hk') hk⟩
  failed := by
    intro t lease error ht
    obtain ⟨i, hgone⟩ := hw.failed ht
    refine ⟨⟨i, hgone⟩, fun i' => (hw.sound.flag i').trans ?_⟩
    refine exists_congr fun k => ⟨fun hk => ⟨?_, hk⟩, And.right⟩
    rintro rfl
    rcases hk with hk | hk
    · cases hgone.symm.trans hk
    · cases hgone.symm.trans hk

theorem CacheInv.safe_step {maxEntries : Nat} {w w' : CacheWorld K A} {action : CacheAction K A}
    (hw : CacheInv maxEntries w) (h : w.step action = some w') : SafeStep w action w' where
  evicted := by
    intro key source hfetch hgone k phase hk
    by_contra hphase
    have halive : (⟨source.id, phase⟩ : Lease) ∈ w.cache.claims.alive source.id :=
      List.mem_filter.mpr ⟨List.mem_of_getElem? hk, by simpa using hphase⟩
    rw [(step_change h).evicted_idle hfetch hgone] at halive
    cases halive
  failed := by
    intro t lease error hold hnew
    rw [((step_failed h hnew).resolve_left hold).1]
  turnedOn := (step_change h).claims.turned_on
  turnedOff := (step_change h).claims.turned_off hw.sound
  released := by
    intro k i haction hk
    rcases haction with rfl | rfl | rfl
    · cases h
      exact Claims.Release.mark.claimed_released hk
    · cases h
      exact Claims.Release.clear.claimed_released hk
    · cases h
      exact Claims.Release.forget.claimed_released hk

end CacheWorld

/-- **Sharing either cache is safe.** -/
theorem source_caches (A B : Type) (maxEntries : Nat) :
    (∀ w : CacheWorld Nv12SourceCacheKey A, w.Reachable maxEntries →
      w.Safe maxEntries ∧ ∀ action w', w.step action = some w' → w.SafeStep action w') ∧
    (∀ w : CacheWorld PackedSourceCacheKey B, w.Reachable maxEntries →
      w.Safe maxEntries ∧ ∀ action w', w.step action = some w' → w.SafeStep action w') :=
  ⟨fun _ h => ⟨h.inv.safe, fun _ _ hstep => h.inv.safe_step hstep⟩,
    fun _ h => ⟨h.inv.safe, fun _ _ hstep => h.inv.safe_step hstep⟩⟩

/-- A key of the NV12 cache. -/
def nv12SampleKey : Nv12SourceCacheKey where
  identity := ⟨1, 2, 3⟩
  topology := ⟨(16, 16), 1, 4096, 2, #v[⟨0, 0, 16⟩, ⟨0, 256, 16⟩], 0⟩
  strategy := .linearBufferToRgba

/-- A source is imported, and its lease is about to be released. -/
theorem source_caches_sample : ∃ w w' : CacheWorld Nv12SourceCacheKey Unit,
    w.cache.claims.leases[0]? = some ⟨0, .held⟩ ∧ w.step (.mark 0) = some w' ∧
      w.Safe 1 ∧ w.SafeStep (.mark 0) w' := by
  obtain ⟨w, hrun, hw⟩ : ∃ w : CacheWorld Nv12SourceCacheKey Unit,
      [CacheAction.begin nv12SampleKey, .tick 0, .lookup 0, .create 0 (.ok ()),
        .insert 0 []].foldlM CacheWorld.step (.new 1) = some w ∧
          w.cache.claims.leases[0]? = some ⟨0, .held⟩ :=
    ⟨_, rfl, rfl⟩
  have h := (source_caches Unit Unit 1).1 w (CacheWorld.Reachable.new.run hrun)
  exact ⟨w, _, hw, rfl, h.1, h.2 _ _ rfl⟩

end VideoInterop.Vulkan
