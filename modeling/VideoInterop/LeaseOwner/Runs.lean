import VideoInterop.Lib.Path
import VideoInterop.LeaseOwner.Transitions

/-!
# Runs of one owner

The owner alone, against an environment that may send it anything: a message of
any form, with any references in it, a call, a signal.  All that is promised is
what the runtime promises, that the identifiers a callback makes are new.

`Owner.Run visits o` is a finite run from `init` to the living owner `o`.
-/

namespace VideoInterop.LeaseOwner

/-- One event and what the runtime answers while it is handled. -/
structure Input where
  /-- What the runtime answers. -/
  env : Env
  /-- The event. -/
  event : Event

/-- What the callback for an input returns.  It starts with nothing sent. -/
def outcome (s : State) (i : Input) : Outcome := handle i.env i.event { s with sent := [] }

theorem outcome_transition (s : State) (i : Input) :
    Transition i.env { s with sent := [] } i.event (outcome s i) :=
  handle_transition _ _ _

/-- An owner process and the supply of identifiers of its node. -/
structure Owner where
  /-- The state of the process. -/
  state : State
  /-- Every identifier in use is below it. -/
  supply : Nat

namespace Owner

/-- A freshly started owner. -/
def Init (o : Owner) : Prop :=
  ∃ env self opts, init env self opts = .ok o.state ∧ o.supply = env.next

/-- The owner handles an input and lives on. -/
structure Step (o : Owner) (i : Input) (o' : Owner) : Prop where
  /-- The callback makes new identifiers. -/
  fresh : o.supply ≤ i.env.supply
  /-- It leaves the owner alive. -/
  live : (outcome o.state i).live? = some o'.state
  /-- Later ones make others. -/
  supply : o'.supply = i.env.next

/-- The visits of a run that ends in `o`. -/
def Run (visits : List (Visit Owner Input)) (o : Owner) : Prop :=
  ∃ o₀, Init o₀ ∧ Path Step o₀ visits o

/-- Some run ends in `o`. -/
def Reachable (o : Owner) : Prop := ∃ visits, Run visits o

theorem Run.invariant {P : Owner → Prop} (hinit : ∀ o, Init o → P o)
    (hstep : ∀ o i o', P o → Step o i o' → P o') {visits : List (Visit Owner Input)} {o : Owner}
    (h : Run visits o) : P o := by
  obtain ⟨o₀, ho₀, hpath⟩ := h
  exact hpath.invariant hstep (hinit o₀ ho₀)

/-- Induction over a run, with its visits. -/
theorem Run.history {P : List (Visit Owner Input) → Owner → Prop} (hinit : ∀ o, Init o → P [] o)
    (hstep : ∀ visits o i o', Run visits o → P visits o → Step o i o' →
      P (visits ++ [⟨o, i, o'⟩]) o')
    {visits : List (Visit Owner Input)} {o : Owner} (h : Run visits o) : P visits o := by
  obtain ⟨o₀, ho₀, hpath⟩ := h
  induction hpath with
  | nil => exact hinit o₀ ho₀
  | snoc hp hst ih => exact hstep _ _ _ _ ⟨o₀, ho₀, hp⟩ ih hst

/-- Every visit of a run is a step from a state the run reached. -/
theorem Run.visit {visits : List (Visit Owner Input)} {o : Owner} (h : Run visits o)
    {v : Visit Owner Input} (hv : v ∈ visits) : Reachable v.pre ∧ Step v.pre v.input v.post := by
  obtain ⟨o₀, ho₀, hpath⟩ := h
  obtain ⟨before, _, _, hbefore, hst, _⟩ := hpath.mem_split hv
  exact ⟨⟨before, o₀, ho₀, hbefore⟩, hst⟩

theorem Reachable.step {o o' : Owner} {i : Input} (h : Reachable o) (hst : Step o i o') :
    Reachable o' := by
  obtain ⟨visits, o₀, ho₀, hpath⟩ := h
  exact ⟨_, o₀, ho₀, hpath.snoc hst⟩

theorem Reachable.invariant {P : Owner → Prop} (hinit : ∀ o, Init o → P o)
    (hstep : ∀ o i o', P o → Step o i o' → P o') {o : Owner} (h : Reachable o) : P o :=
  h.choose_spec.invariant hinit hstep

/-! ## Following inputs -/

/-- The owner after an input, when it lives. -/
def advance (o : Owner) (i : Input) : Option Owner :=
  if o.supply ≤ i.env.supply then
    (outcome o.state i).live?.map fun state => ⟨state, i.env.next⟩
  else none

/-- The visits of some inputs and the owner after them. -/
def follow (o : Owner) : List Input → Option (List (Visit Owner Input) × Owner)
  | [] => some ([], o)
  | i :: inputs =>
      (o.advance i).bind fun o₁ =>
        (o₁.follow inputs).map fun (visits, o₂) => (⟨o, i, o₁⟩ :: visits, o₂)

theorem advance_step {o o' : Owner} {i : Input} (h : o.advance i = some o') : Step o i o' := by
  unfold advance at h
  split at h
  · next hfresh =>
      obtain ⟨state, hlive, rfl⟩ := Option.map_eq_some_iff.mp h
      exact ⟨hfresh, hlive, rfl⟩
  · cases h

theorem follow_path {inputs : List Input} {o o' : Owner} {visits : List (Visit Owner Input)}
    (h : o.follow inputs = some (visits, o')) : Path Step o visits o' := by
  induction inputs generalizing o visits with
  | nil =>
      cases h
      exact .nil
  | cons i inputs ih =>
      obtain ⟨o₁, hadvance, h⟩ := Option.bind_eq_some_iff.mp h
      obtain ⟨⟨visits', o₂⟩, hfollow, heq⟩ := Option.map_eq_some_iff.mp h
      cases heq
      exact (Path.single (advance_step hadvance)).append (ih hfollow)

/-- The visits of a fresh owner that handles some inputs. -/
def perform (env : Env) (self : Pid) (opts : Options) (inputs : List Input) :
    Option (List (Visit Owner Input) × Owner) :=
  (init env self opts).toOption.bind fun state => follow ⟨state, env.next⟩ inputs

theorem perform_run {env : Env} {self : Pid} {opts : Options} {inputs : List Input}
    (h : (perform env self opts inputs).isSome = true) :
    Run ((perform env self opts inputs).get h).1 ((perform env self opts inputs).get h).2 := by
  have hsome := (Option.some_get h).symm
  obtain ⟨state, hinit, hfollow⟩ := Option.bind_eq_some_iff.mp hsome
  refine ⟨⟨state, env.next⟩, ⟨env, self, opts, ?_, rfl⟩, follow_path hfollow⟩
  cases hi : init env self opts with
  | error e => rw [hi] at hinit; cases hinit
  | ok s => rw [hi] at hinit; cases hinit; rfl

end Owner

/-- A fresh owner has no lease, no reservation, no job and no monitor. -/
structure Blank (s : State) : Prop where
  /-- The owner is open. -/
  mode : s.mode = .open
  /-- There is no lease. -/
  leases : s.leases = ∅
  /-- There is no reservation. -/
  issueReservations : s.issueReservations = ∅
  /-- No issue is pending. -/
  pendingIssues : s.pendingIssues = ∅
  /-- No release waits. -/
  releaseQueue : s.releaseQueue = []
  /-- No release runs. -/
  releaseJob : s.releaseJob = none
  /-- No client is monitored. -/
  protocolMonitors : s.protocolMonitors = ∅
  /-- Nobody waits for the drain. -/
  drainWaiters : s.drainWaiters = ∅
  /-- No timer is armed. -/
  retryTimers : s.retryTimers = ∅

theorem init_ok {env : Env} {self : Pid} {opts : Options} {s : State}
    (h : init env self opts = .ok s) :
    Blank s ∧ s.releaseExecutorMonitor = env.executorMonitor ∧
      ∀ monitorRef, s.producerMonitor = some monitorRef → monitorRef = env.monitorRef := by
  unfold init at h
  split at h
  · cases h
  · split at h
    · cases h
    · split at h
      · cases h
      · cases h
        refine ⟨⟨rfl, rfl, rfl, rfl, rfl, rfl, rfl, rfl, rfl⟩, rfl, fun monitorRef hm => ?_⟩
        cases hlink : opts.link <;> simp [hlink] at hm
        exact hm.symm

theorem Owner.Init.blank {o : Owner} (h : Owner.Init o) : Blank o.state := by
  obtain ⟨_, _, _, h, _⟩ := h
  exact (init_ok h).1

/-! ## A sample owner -/

/-- A runtime in which nothing has happened yet but identifiers below `supply`. -/
def Env.plain (supply : Nat) : Env where
  supply := supply
  clock := fun _ => 0
  messageQueueLen := 0
  factoryResult := .other (.atom .nil)
  order := id
  order_perm := fun _ => .refl _

/-- The options of a test: two leases, no guard factory. -/
def sampleOptions : Options where
  producer := 1000
  producerLocal := true
  maxActive := some 2
  notify := none
  notifyReleases := none
  releaseRetry := none
  abandonmentGuardFactory := false
  link := false

/-- Process 100 reserves, commits the token 7 and releases it; the executor
gives it back. -/
def sampleInputs : List Input :=
  [⟨.plain 9, .info (.reserveIssue (.atom .nil) 100 50)⟩,
    ⟨.plain 18, .info (.commitIssue 9 (.integer 7) 100 50)⟩,
    ⟨.plain 27, .info (.release 20 21)⟩,
    ⟨.plain 36, .info (.releaseResult 8 20 31 (.ok (.atom .nil)) 5)⟩]

/-- The first inputs of the sample, handled by a new owner. -/
def sampleRun (n : Nat) : Option (List (Visit Owner Input) × Owner) :=
  Owner.perform (.plain 0) 1001 sampleOptions (sampleInputs.take n)

theorem sampleRun_run {n : Nat} (h : (sampleRun n).isSome = true) :
    Owner.Run ((sampleRun n).get h).1 ((sampleRun n).get h).2 := Owner.perform_run h

end VideoInterop.LeaseOwner
