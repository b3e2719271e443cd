import VideoInterop.Vulkan.Lane

/-!
# Semaphores of a lane

A lane destroys the ready semaphores it makes, or gives them to the renderer.
A semaphore whose signal has been submitted may be destroyed only when the queue
is done with it, and the lane learns this from its release fence alone: a
signalled release fence means that all submissions before it are over.

`Allowed` is the rule for each event after a history.  `LaneInv` is what every
method keeps of a lane and its history.  It has a parameter, the semaphore that a
running method has made and not yet stored.
-/

namespace VideoInterop.Vulkan

open VideoInterop (Effect Legal)
open VideoInterop.Effect

/-! ## What the queue still does -/

/-- The submission runs, or may run: on a lost device this cannot be known. -/
def MayRun (failure : Option VkError) : Prop := failure = none ∨ failure = some .deviceLost

instance (failure : Option VkError) : Decidable (MayRun failure) :=
  inferInstanceAs (Decidable (_ ∨ _))

/-- What a lane's submissions come to: the semaphore that the last acquire
signals, whether a submission may be running, and whether the last one signals
the release fence. -/
structure QueueView where
  /-- What the last acquire signals. -/
  signals : Option Semaphore
  /-- May a submission be running? -/
  pending : Bool
  /-- Does the last one signal the release fence? -/
  fenced : Bool
deriving DecidableEq

/-- The view after an event. -/
def QueueView.after (q : QueueView) : LaneEvent → QueueView
  | .submit .acquire _ signal _ failure => if MayRun failure then ⟨signal, true, false⟩ else q
  | .submit .release _ _ _ none => { q with pending := true, fenced := true }
  | .submit .release _ _ _ (some .deviceLost) => { q with pending := true, fenced := false }
  | .fenceStatus .release (.ok true) => if q.fenced then { q with pending := false } else q
  | _ => q

/-- The view a history, latest first, leaves. -/
def queueView : List LaneEvent → QueueView
  | [] => ⟨none, false, false⟩
  | e :: past => (queueView past).after e

/-- The signal of a semaphore has been submitted, or may have been. -/
def Submitted (s : Semaphore) (past : List LaneEvent) : Prop :=
  ∃ wait commands failure,
    .submit .acquire wait (some s) commands failure ∈ past ∧ MayRun failure

/-- The release fence of the acquire that signals the semaphore has been seen
signalled. -/
def SeenComplete (s : Semaphore) (past : List LaneEvent) : Prop :=
  queueView past = ⟨some s, false, true⟩

/-- The lane has no more to do with the semaphore. -/
def Disposed (s : Semaphore) (past : List LaneEvent) : Prop :=
  .destroySemaphore s ∈ past ∨ .handOver s ∈ past

/-- What the lane may do after a history. -/
def Allowed (past : List LaneEvent) : LaneEvent → Prop
  | .destroySemaphore s => ¬ Disposed s past ∧ (Submitted s past → SeenComplete s past)
  | .destroyQueryPool _ | .destroyFence _ | .destroyCommandPool _ =>
    (queueView past).pending = false
  | _ => True

/-! ## The invariant -/

/-- An event about a semaphore of the lane. -/
def Mentions (s : Semaphore) : LaneEvent → Prop
  | .createSemaphore _ t | .destroySemaphore t | .handOver t => t = s
  | .submit .acquire _ signal _ _ => signal = some s
  | _ => False

/-- A semaphore the lane is responsible for. -/
def Holds (loose : Option Semaphore) (lane : ImportedImageSync) (s : Semaphore) : Prop :=
  loose = some s ∨ lane.readySemaphore = some s ∨ lane.importedAcquire = some s

/-- What holds of a lane and its history.  `loose` is a semaphore made but not
yet stored. -/
structure LaneInv (loose : Option Semaphore) (w : LaneState) : Prop where
  /-- Every event was allowed. -/
  legal : Legal Allowed w.events
  /-- A semaphore has a number the lane has given. -/
  serials : ∀ e ∈ w.events, ∀ s, Mentions s e → s.serial < w.lane.semaphores
  /-- One that is held was not disposed of. -/
  held : ∀ s, Holds loose w.lane s → s.serial < w.lane.semaphores ∧ ¬ Disposed s w.events
  /-- The one of a producer's fence is no other, and no acquire signals it. -/
  payload : ∀ s, w.lane.importedAcquire = some s → loose ≠ some s ∧
    w.lane.readySemaphore ≠ some s ∧ .createSemaphore .ready s ∉ w.events ∧ ¬ Submitted s w.events
  /-- One that is not stored yet was not submitted. -/
  unstored : ∀ s, loose = some s → ¬ Submitted s w.events ∧ w.lane.acquireSubmitted = false
  /-- One that was made to be waited for is held or disposed of. -/
  accounted : ∀ s, .createSemaphore .ready s ∈ w.events →
    Disposed s w.events ∨ w.lane.readySemaphore = some s ∨ loose = some s
  /-- Before an acquire nothing is stored and nothing is running. -/
  idle : w.lane.acquireSubmitted = false → w.lane.readySemaphore = none ∧
    w.lane.rendererAccepted = false ∧ w.lane.rendererRejected = false ∧
    w.lane.releaseSubmitted = false ∧ (queueView w.events).pending = false
  /-- A release comes after the renderer's answer, and its fence is the last thing
  submitted. -/
  released : w.lane.releaseSubmitted = true → (queueView w.events).fenced = true ∧
    (w.lane.rendererAccepted = true ∨ w.lane.rendererRejected = true)
  /-- The renderer took the one it was given. -/
  accepted : w.lane.rendererAccepted = true → w.lane.readySemaphore = none
  /-- The one the lane has is the one the acquire signals. -/
  signals : ∀ s, w.lane.readySemaphore = some s → (queueView w.events).signals = some s

theorem LaneInv.new (family : QueueFamily) (query : Option TimestampQuery) :
    LaneInv none (.new family query) where
  legal := .nil
  serials := nofun
  held := by rintro s (h | h | h) <;> cases h
  payload := nofun
  unstored := nofun
  accounted := nofun
  idle := fun _ => ⟨rfl, rfl, rfl, rfl, rfl⟩
  released := nofun
  accepted := nofun
  signals := nofun

/-! ## Events -/

/-- An event that neither makes nor disposes of a semaphore, and submits no
signal. -/
def Quiet : LaneEvent → Prop
  | .createSemaphore _ _ | .destroySemaphore _ | .handOver _ => False
  | .submit .acquire _ _ _ failure => ¬ MayRun failure
  | _ => True

theorem Quiet.disposed {e : LaneEvent} (h : Quiet e) {s : Semaphore} {past : List LaneEvent} :
    Disposed s (e :: past) ↔ Disposed s past := by
  have hdestroy : .destroySemaphore s ≠ e := fun heq => by subst heq; exact h
  have hover : .handOver s ≠ e := fun heq => by subst heq; exact h
  simp only [Disposed, List.mem_cons, hdestroy, hover, false_or]

theorem Quiet.submitted {e : LaneEvent} (h : Quiet e) {s : Semaphore} {past : List LaneEvent} :
    Submitted s (e :: past) ↔ Submitted s past := by
  constructor
  · rintro ⟨wait, commands, failure, hmem, hrun⟩
    rcases List.mem_cons.mp hmem with heq | hmem
    · subst heq
      exact absurd hrun h
    · exact ⟨wait, commands, failure, hmem, hrun⟩
  · rintro ⟨wait, commands, failure, hmem, hrun⟩
    exact ⟨wait, commands, failure, List.mem_cons_of_mem _ hmem, hrun⟩

theorem Quiet.created {e : LaneEvent} (h : Quiet e) {s : Semaphore} {past : List LaneEvent} :
    .createSemaphore .ready s ∈ e :: past ↔ .createSemaphore .ready s ∈ past := by
  have hne : .createSemaphore .ready s ≠ e := fun heq => by subst heq; exact h
  simp only [List.mem_cons, hne, false_or]

/-- A quiet event leaves the semaphores alone.  What it changes of the queue must
fit the flags. -/
theorem LaneInv.quiet {loose : Option Semaphore} {w : LaneState} (h : LaneInv loose w)
    {e : LaneEvent} (hquiet : Quiet e) (hallowed : Allowed w.events e)
    (hserial : ∀ s, Mentions s e → s.serial < w.lane.semaphores)
    (hpending : w.lane.acquireSubmitted = false →
      ((queueView w.events).after e).pending = false)
    (hfenced : w.lane.releaseSubmitted = true → ((queueView w.events).after e).fenced = true)
    (hsignals : ((queueView w.events).after e).signals = (queueView w.events).signals) :
    LaneInv loose (w.log e) where
  legal := h.legal.cons hallowed
  serials := by
    intro e' he' s hs
    rcases List.mem_cons.mp he' with rfl | he'
    · exact hserial s hs
    · exact h.serials e' he' s hs
  held := fun s hs => ⟨(h.held s hs).1, fun hd => (h.held s hs).2 (hquiet.disposed.mp hd)⟩
  payload := fun s hs =>
    let ⟨hloose, hready, hcreated, hsubmitted⟩ := h.payload s hs
    ⟨hloose, hready, fun hc => hcreated (hquiet.created.mp hc),
      fun hsub => hsubmitted (hquiet.submitted.mp hsub)⟩
  unstored := fun s hs =>
    ⟨fun hsub => (h.unstored s hs).1 (hquiet.submitted.mp hsub), (h.unstored s hs).2⟩
  accounted := fun s hs =>
    (h.accounted s (hquiet.created.mp hs)).imp_left hquiet.disposed.mpr
  idle := fun hidle =>
    let ⟨hready, haccepted, hrejected, hreleased, _⟩ := h.idle hidle
    ⟨hready, haccepted, hrejected, hreleased, hpending hidle⟩
  released := fun hreleased => ⟨hfenced hreleased, (h.released hreleased).2⟩
  accepted := h.accepted
  signals := fun s hs => hsignals.trans (h.signals s hs)

/-- A quiet event that the queue does not see. -/
theorem LaneInv.unseen {loose : Option Semaphore} {w : LaneState} (h : LaneInv loose w)
    {e : LaneEvent} (hquiet : Quiet e) (hallowed : Allowed w.events e)
    (hserial : ∀ s, Mentions s e → s.serial < w.lane.semaphores)
    (hqueue : (queueView w.events).after e = queueView w.events) : LaneInv loose (w.log e) :=
  h.quiet hquiet hallowed hserial (fun hidle => by rw [hqueue]; exact (h.idle hidle).2.2.2.2)
    (fun hreleased => by rw [hqueue]; exact (h.released hreleased).1) (by rw [hqueue])

/-- A change of a lane that touches neither the semaphores nor the flags. -/
theorem LaneInv.set {loose : Option Semaphore} {w : LaneState} (h : LaneInv loose w)
    {f : ImportedImageSync → ImportedImageSync}
    (hf : (f w.lane).importedAcquire = w.lane.importedAcquire ∧
      (f w.lane).readySemaphore = w.lane.readySemaphore ∧
      (f w.lane).acquireSubmitted = w.lane.acquireSubmitted ∧
      (f w.lane).rendererAccepted = w.lane.rendererAccepted ∧
      (f w.lane).rendererRejected = w.lane.rendererRejected ∧
      (f w.lane).releaseSubmitted = w.lane.releaseSubmitted ∧
      (f w.lane).semaphores = w.lane.semaphores) : LaneInv loose (w.set f) := by
  obtain ⟨himported, hready, hacquire, haccepted, hrejected, hrelease, hsemaphores⟩ := hf
  constructor <;> simp only [LaneState.set, Holds, himported, hready, hacquire, haccepted,
    hrejected, hrelease, hsemaphores]
  exacts [h.legal, h.serials, h.held, h.payload, h.unstored, h.accounted, h.idle, h.released,
    h.accepted, h.signals]

/-! ## Semaphores -/

/-- The history says nothing of a semaphore that is not made yet. -/
theorem LaneInv.fresh {loose : Option Semaphore} {w : LaneState} (h : LaneInv loose w)
    {s : Semaphore} (hs : s.serial = w.lane.semaphores) :
    ¬ Disposed s w.events ∧ ¬ Submitted s w.events ∧
      ∀ purpose, .createSemaphore purpose s ∉ w.events := by
  have hfresh : ∀ e ∈ w.events, ¬ Mentions s e := fun e he hm =>
    Nat.ne_of_lt (h.serials e he s hm) hs
  refine ⟨?_, ?_, ?_⟩
  · rintro (hd | hd)
    · exact hfresh _ hd rfl
    · exact hfresh _ hd rfl
  · rintro ⟨wait, commands, failure, hmem, -⟩
    exact hfresh _ hmem rfl
  · intro purpose hc
    exact hfresh _ hc rfl

/-- The state after a semaphore is made. -/
def LaneState.made (purpose : Purpose) (handle : Nat) (w : LaneState) : LaneState :=
  (w.set fun lane => { lane with semaphores := w.lane.semaphores + 1 }).log
    (.createSemaphore purpose ⟨handle, w.lane.semaphores⟩)

theorem LaneInv.made {w : LaneState} (h : LaneInv none w) (hidle : w.lane.acquireSubmitted = false)
    (purpose : Purpose) (handle : Nat) :
    LaneInv (some ⟨handle, w.lane.semaphores⟩) (w.made purpose handle) := by
  obtain ⟨hdisposed, hsubmitted, hcreated⟩ := h.fresh (s := ⟨handle, w.lane.semaphores⟩) rfl
  have hkeep : ∀ s, Disposed s (w.made purpose handle).events ↔ Disposed s w.events := by
    intro s
    simp [LaneState.made, LaneState.log, LaneState.set, Disposed]
  have hsub : ∀ s, Submitted s (w.made purpose handle).events ↔ Submitted s w.events := by
    intro s
    simp [LaneState.made, LaneState.log, LaneState.set, Submitted]
  constructor
  case legal => exact h.legal.cons trivial
  case serials =>
    intro e he s hs
    rcases List.mem_cons.mp he with rfl | he
    · cases hs
      exact Nat.lt_succ_self _
    · exact (h.serials e he s hs).trans (Nat.lt_succ_self _)
  case held =>
    rintro s (hs | hs | hs)
    · cases hs
      exact ⟨Nat.lt_succ_self _, fun hd => hdisposed ((hkeep _).mp hd)⟩
    · obtain ⟨hlt, hd⟩ := h.held s (.inr (.inl hs))
      exact ⟨hlt.trans (Nat.lt_succ_self _), fun hd' => hd ((hkeep _).mp hd')⟩
    · obtain ⟨hlt, hd⟩ := h.held s (.inr (.inr hs))
      exact ⟨hlt.trans (Nat.lt_succ_self _), fun hd' => hd ((hkeep _).mp hd')⟩
  case payload =>
    intro s hs
    obtain ⟨-, hready, hc, hsubmitted'⟩ := h.payload s hs
    have hlt := (h.held s (.inr (.inr hs))).1
    have hne : (⟨handle, w.lane.semaphores⟩ : Semaphore) ≠ s := fun heq =>
      absurd hlt (heq ▸ Nat.lt_irrefl _)
    refine ⟨fun heq => hne (Option.some.inj heq), hready, ?_,
      fun hs' => hsubmitted' ((hsub s).mp hs')⟩
    intro hmem
    rcases List.mem_cons.mp hmem with heq | hmem
    · cases heq
      exact hne rfl
    · exact hc hmem
  case unstored =>
    intro s hs
    cases hs
    exact ⟨fun hs' => hsubmitted ((hsub _).mp hs'), hidle⟩
  case accounted =>
    intro s hs
    rcases List.mem_cons.mp hs with heq | hs
    · cases heq
      exact .inr (.inr rfl)
    · rcases h.accounted s hs with hd | hr | hl
      · exact .inl ((hkeep s).mpr hd)
      · exact .inr (.inl hr)
      · cases hl
  case idle => exact h.idle
  case released => exact h.released
  case accepted => exact h.accepted
  case signals => exact h.signals

theorem disposed_destroy {s t : Semaphore} {past : List LaneEvent} :
    Disposed s (.destroySemaphore t :: past) ↔ s = t ∨ Disposed s past := by
  simp only [Disposed, List.mem_cons, LaneEvent.destroySemaphore.injEq, reduceCtorEq, false_or,
    or_assoc]

theorem submitted_destroy {s t : Semaphore} {past : List LaneEvent} :
    Submitted s (.destroySemaphore t :: past) ↔ Submitted s past := by
  simp only [Submitted, List.mem_cons, reduceCtorEq, false_or]

/-- Destroy a semaphore the lane no longer stores. -/
theorem LaneInv.destroy {loose : Option Semaphore} {w : LaneState} {s : Semaphore}
    (h : LaneInv loose w) (hheld : Holds loose w.lane s)
    (hcomplete : Submitted s w.events → SeenComplete s w.events)
    {loose' : Option Semaphore} {f : ImportedImageSync → ImportedImageSync}
    (hdrop : ∀ t, Holds loose' (f w.lane) t ↔ Holds loose w.lane t ∧ t ≠ s)
    (himported : ∀ t, (f w.lane).importedAcquire = some t → w.lane.importedAcquire = some t)
    (hready : ∀ t, (f w.lane).readySemaphore = some t → w.lane.readySemaphore = some t)
    (hloose : ∀ t, loose' = some t → loose = some t)
    (hflags : (f w.lane).acquireSubmitted = w.lane.acquireSubmitted ∧
      (f w.lane).rendererAccepted = w.lane.rendererAccepted ∧
      (f w.lane).rendererRejected = w.lane.rendererRejected ∧
      (f w.lane).releaseSubmitted = w.lane.releaseSubmitted ∧
      (f w.lane).semaphores = w.lane.semaphores) :
    LaneInv loose' ((w.set f).log (.destroySemaphore s)) := by
  obtain ⟨hacquire, haccepted, hrejected, hrelease, hsemaphores⟩ := hflags
  obtain ⟨hlt, hlive⟩ := h.held s hheld
  have hnone : w.lane.readySemaphore = none → (f w.lane).readySemaphore = none := fun hn =>
    Option.eq_none_iff_forall_ne_some.mpr fun t ht => by rw [hready t ht] at hn; cases hn
  constructor <;> simp only [LaneState.log, LaneState.set, hacquire, haccepted, hrejected, hrelease,
    hsemaphores]
  case legal => exact h.legal.cons ⟨hlive, hcomplete⟩
  case serials =>
    intro e he t ht
    rcases List.mem_cons.mp he with rfl | he
    · cases ht
      exact hlt
    · exact h.serials e he t ht
  case held =>
    intro t ht
    obtain ⟨ht, hne⟩ := (hdrop t).mp ht
    obtain ⟨hlt', hd⟩ := h.held t ht
    exact ⟨hlt', fun hd' => (disposed_destroy.mp hd').elim hne hd⟩
  case payload =>
    intro t ht
    obtain ⟨hl, hr, hc, hs⟩ := h.payload t (himported t ht)
    refine ⟨fun ht' => hl (hloose t ht'), fun ht' => hr (hready t ht'), ?_,
      fun hs' => hs (submitted_destroy.mp hs')⟩
    simpa only [List.mem_cons, reduceCtorEq, false_or] using hc
  case unstored =>
    intro t ht
    obtain ⟨hs, hidle⟩ := h.unstored t (hloose t ht)
    exact ⟨fun hs' => hs (submitted_destroy.mp hs'), hidle⟩
  case accounted =>
    intro t ht
    rw [disposed_destroy]
    simp only [List.mem_cons, reduceCtorEq, false_or] at ht
    by_cases hne : t = s
    · exact .inl (.inl hne)
    · rcases h.accounted t ht with hd | hr | hl
      · exact .inl (.inr hd)
      · rcases (hdrop t).mpr ⟨.inr (.inl hr), hne⟩ with hl | hr | hi
        · exact .inr (.inr hl)
        · exact .inr (.inl hr)
        · exact absurd hr (h.payload t (himported t hi)).2.1
      · rcases (hdrop t).mpr ⟨.inl hl, hne⟩ with hl | hr | hi
        · exact .inr (.inr hl)
        · exact .inr (.inl hr)
        · exact absurd hl (h.payload t (himported t hi)).1
  case idle =>
    intro hidle
    obtain ⟨hr, ha, hj, hl, hp⟩ := h.idle hidle
    exact ⟨hnone hr, ha, hj, hl, hp⟩
  case released => exact h.released
  case accepted => exact fun ha => hnone (h.accepted ha)
  case signals => exact fun t ht => h.signals t (hready t ht)

/-- Destroy a semaphore that was made for nothing. -/
theorem LaneInv.destroyLoose {w : LaneState} {s : Semaphore} (h : LaneInv (some s) w) :
    LaneInv none (w.log (.destroySemaphore s)) := by
  have hstored : ∀ t, Holds none w.lane t ↔ Holds (some s) w.lane t ∧ t ≠ s := by
    intro t
    have hidle := h.idle (h.unstored s rfl).2
    simp only [Holds, hidle.1, Option.some.injEq, reduceCtorEq, false_or]
    refine ⟨fun ht => ⟨.inr ht, ?_⟩, ?_⟩
    · rintro rfl
      exact (h.payload t ht).1 rfl
    · rintro ⟨rfl | ht, hne⟩
      · exact absurd rfl hne
      · exact ht
  exact h.destroy (f := id) (.inl rfl) (fun hs => absurd hs (h.unstored s rfl).1) hstored
    (fun _ => id) (fun _ => id) nofun ⟨rfl, rfl, rfl, rfl, rfl⟩

/-- Keep a semaphore to import sync files into. -/
theorem LaneInv.storePayload {w : LaneState} {s : Semaphore} (h : LaneInv (some s) w)
    (hpayload : .createSemaphore .ready s ∉ w.events) :
    LaneInv none (w.set fun lane => { lane with importedAcquire := some s }) where
  legal := h.legal
  serials := h.serials
  held := by
    rintro t (ht | ht | ht)
    · cases ht
    · exact h.held t (.inr (.inl ht))
    · cases ht
      exact h.held s (.inl rfl)
  payload := by
    intro t ht
    cases ht
    have hidle := h.idle (h.unstored s rfl).2
    have hready : w.lane.readySemaphore ≠ some s := hidle.1 ▸ nofun
    exact ⟨nofun, hready, hpayload, (h.unstored s rfl).1⟩
  unstored := nofun
  accounted := by
    intro t ht
    rcases h.accounted t ht with hd | hr | hl
    · exact .inl hd
    · exact .inr (.inl hr)
    · cases hl
      exact absurd ht hpayload
  idle := h.idle
  released := h.released
  accepted := h.accepted
  signals := h.signals

/-- The submission of an acquire that runs or may run. -/
theorem LaneInv.acquired {w : LaneState} {s : Semaphore} (h : LaneInv (some s) w)
    (imported : ImportView) (wait : Option Semaphore) (commands : List Command)
    {failure : Option VkError} (hrun : MayRun failure) :
    LaneInv none ((w.log (.submit .acquire wait (some s) commands failure)).set
      (·.acquired imported s)) := by
  obtain ⟨hsubmitted, hacquire⟩ := h.unstored s rfl
  obtain ⟨hready, haccepted, hrejected, hrelease, -⟩ := h.idle hacquire
  have hdisposed : ∀ t, Disposed t (.submit .acquire wait (some s) commands failure :: w.events) ↔
      Disposed t w.events := fun t => by
    simp only [Disposed, List.mem_cons, reduceCtorEq, false_or]
  constructor
  case legal => exact h.legal.cons trivial
  case serials =>
    intro e he t ht
    rcases List.mem_cons.mp he with rfl | he
    · cases ht
      exact (h.held s (.inl rfl)).1
    · exact h.serials e he t ht
  case held =>
    intro t ht
    have hheld : Holds (some s) w.lane t := by
      rcases ht with ht | ht | ht
      · cases ht
      · exact .inl ht
      · exact .inr (.inr ht)
    exact ⟨(h.held t hheld).1, fun hd => (h.held t hheld).2 ((hdisposed t).mp hd)⟩
  case payload =>
    intro t ht
    obtain ⟨hl, -, hc, hs⟩ := h.payload t ht
    refine ⟨nofun, hl, ?_, ?_⟩
    · simpa only [LaneState.set, LaneState.log, List.mem_cons, reduceCtorEq, false_or] using hc
    · rintro ⟨wait', commands', failure', hmem, hrun'⟩
      rcases List.mem_cons.mp hmem with heq | hmem
      · cases heq
        exact hl rfl
      · exact hs ⟨wait', commands', failure', hmem, hrun'⟩
  case unstored => exact nofun
  case accounted =>
    intro t ht
    have ht : .createSemaphore .ready t ∈ w.events := by
      simpa only [LaneState.set, LaneState.log, List.mem_cons, reduceCtorEq, false_or] using ht
    rcases h.accounted t ht with hd | hr | hl
    · exact .inl ((hdisposed t).mpr hd)
    · rw [hready] at hr
      cases hr
    · exact .inr (.inl hl)
  case idle => exact nofun
  case released => exact fun hr => absurd (hrelease.symm.trans hr) (by decide)
  case accepted => exact fun ha => absurd (haccepted.symm.trans ha) (by decide)
  case signals =>
    intro t ht
    show ((queueView w.events).after _).signals = some t
    rw [QueueView.after, if_pos hrun]
    exact ht

/-- Give the ready semaphore to the renderer. -/
theorem LaneInv.handOver {w : LaneState} {s : Semaphore} (h : LaneInv none w)
    (hready : w.lane.readySemaphore = some s) :
    LaneInv none ((w.set fun lane =>
      { lane with readySemaphore := none, rendererAccepted := true }).log (.handOver s)) := by
  have hlt := (h.held s (.inr (.inl hready))).1
  have hdisposed : ∀ t, Disposed t (.handOver s :: w.events) ↔ t = s ∨ Disposed t w.events := by
    intro t
    simp only [Disposed, List.mem_cons, LaneEvent.handOver.injEq, reduceCtorEq, false_or]
    exact or_left_comm
  constructor
  case legal => exact h.legal.cons trivial
  case serials =>
    intro e he t ht
    rcases List.mem_cons.mp he with rfl | he
    · cases ht
      exact hlt
    · exact h.serials e he t ht
  case held =>
    rintro t (ht | ht | ht)
    · cases ht
    · cases ht
    · obtain ⟨hlt', hd⟩ := h.held t (.inr (.inr ht))
      refine ⟨hlt', fun hd' => ((hdisposed t).mp hd').elim ?_ hd⟩
      rintro rfl
      exact (h.payload t ht).2.1 hready
  case payload =>
    intro t ht
    obtain ⟨hl, -, hc, hs⟩ := h.payload t ht
    refine ⟨hl, nofun, ?_, ?_⟩
    · simpa only [LaneState.set, LaneState.log, List.mem_cons, reduceCtorEq, false_or] using hc
    · simpa only [LaneState.set, LaneState.log, Submitted, List.mem_cons, reduceCtorEq, false_or]
        using hs
  case unstored => exact nofun
  case accounted =>
    intro t ht
    have ht : .createSemaphore .ready t ∈ w.events := by
      simpa only [LaneState.set, LaneState.log, List.mem_cons, reduceCtorEq, false_or] using ht
    refine .inl ((hdisposed t).mpr ?_)
    rcases h.accounted t ht with hd | hr | hl
    · exact .inr hd
    · exact .inl (Option.some.inj (hr.symm.trans hready))
    · cases hl
  case idle =>
    intro hidle
    have hnone := (h.idle hidle).1
    rw [hready] at hnone
    cases hnone
  case released => exact fun hr => ⟨(h.released hr).1, .inl rfl⟩
  case accepted => exact fun _ => rfl
  case signals => exact nofun

/-- The renderer rejects the ready semaphore, which the lane keeps. -/
theorem LaneInv.reject {w : LaneState} {s : Semaphore} (h : LaneInv none w)
    (hready : w.lane.readySemaphore = some s) :
    LaneInv none (w.set fun lane => { lane with rendererRejected := true }) where
  legal := h.legal
  serials := h.serials
  held := h.held
  payload := h.payload
  unstored := h.unstored
  accounted := h.accounted
  idle := fun hidle => by
    have hnone := (h.idle hidle).1
    rw [hready] at hnone
    cases hnone
  released := fun hr => ⟨(h.released hr).1, .inr rfl⟩
  accepted := h.accepted
  signals := h.signals

/-- The submission of a release. -/
theorem LaneInv.release {w : LaneState} (h : LaneInv none w)
    (hacquire : w.lane.acquireSubmitted = true) (hrelease : w.lane.releaseSubmitted = false)
    (hanswer : w.lane.rendererAccepted = true ∨ w.lane.rendererRejected = true)
    (commands : List Command) :
    LaneInv none ((w.log (.submit .release none none commands none)).set
      fun lane => { lane with releaseSubmitted := true }) := by
  have hlogged : LaneInv none (w.log (.submit .release none none commands none)) :=
    h.quiet trivial trivial (fun _ hs => hs.elim)
      (fun hidle => absurd (hacquire.symm.trans hidle) (by decide))
      (fun hr => absurd (hrelease.symm.trans hr) (by decide)) rfl
  exact {
    legal := hlogged.legal
    serials := hlogged.serials
    held := hlogged.held
    payload := hlogged.payload
    unstored := hlogged.unstored
    accounted := hlogged.accounted
    idle := fun hidle => absurd (hacquire.symm.trans hidle) (by decide)
    released := fun _ => ⟨rfl, hanswer⟩
    accepted := hlogged.accepted
    signals := hlogged.signals }

/-! ## Methods -/

section
variable {ε α : Type}

/-- A computation that keeps the invariant, whether it fails or not. -/
def Keeps (x : Effect LaneState ε α) : Prop :=
  Triple (LaneInv none) x (fun _ => LaneInv none) fun _ => LaneInv none

/-- An idle lane, with a semaphore that is not yet stored. -/
def IdleWith (loose : Option Semaphore) (w : LaneState) : Prop :=
  LaneInv loose w ∧ w.lane.acquireSubmitted = false

theorem triple_theLane {P : LaneState → Prop} {E : ε → LaneState → Prop} :
    Triple P theLane (fun lane w => P w ∧ lane = w.lane) E := fun _ hw => ⟨hw, rfl⟩

theorem triple_event {P : LaneState → Prop} {Q : Unit → LaneState → Prop}
    {E : ε → LaneState → Prop} {e : LaneEvent} (h : ∀ w, P w → Q () (w.log e)) :
    Triple P (event e) Q E := h

theorem triple_update {P : LaneState → Prop} {Q : Unit → LaneState → Prop}
    {E : ε → LaneState → Prop} {f : ImportedImageSync → ImportedImageSync}
    (h : ∀ w, P w → Q () (w.set f)) : Triple P (update f) Q E := h

/-- An event about neither semaphores nor submissions. -/
theorem idleWith_log {loose : Option Semaphore} {w : LaneState} {e : LaneEvent}
    (h : IdleWith loose w) (hquiet : Quiet e) (hallowed : Allowed w.events e)
    (hmentions : ∀ s, ¬ Mentions s e) (hqueue : (queueView w.events).after e = queueView w.events) :
    IdleWith loose (w.log e) :=
  ⟨h.1.unseen hquiet hallowed (fun s hs => absurd hs (hmentions s)) hqueue, h.2⟩

/-- Making a semaphore. -/
theorem triple_createSemaphore {purpose : Purpose} {made : Made} {e : VkError → ε}
    {P : ImportedImageSync → Prop} (hP : ∀ lane n, P lane → P { lane with semaphores := n }) :
    Triple (fun w => IdleWith none w ∧ P w.lane) (createSemaphore purpose made e)
      (fun s w => (IdleWith (some s) w ∧ P w.lane) ∧
        ∀ other, other ≠ purpose → .createSemaphore other s ∉ w.events)
      fun _ w => IdleWith none w := by
  cases made with
  | error x => exact Triple.throw fun w hw => hw.1
  | ok handle =>
    rintro w ⟨⟨hinv, hidle⟩, hp⟩
    refine ⟨⟨⟨hinv.made hidle purpose handle, hidle⟩, hP _ _ hp⟩, ?_⟩
    intro other hother hmem
    rcases List.mem_cons.mp hmem with heq | hmem
    · cases heq
      exact hother rfl
    · exact (hinv.fresh (s := ⟨handle, w.lane.semaphores⟩) rfl).2.2 _ hmem

/-- Importing a sync file into a semaphore. -/
theorem triple_importSyncFile {s : Semaphore} {r : ImportResults} {P : LaneState → Prop}
    (hP : ∀ w, P w → P (w.log (.importPayload s))) :
    Triple P (importSyncFile s r) (fun _ => P) fun _ => P := by
  refine .bind (.expect fun _ _ hw _ => hw) fun _ => ?_
  refine .bind (.expect fun _ _ hw _ => hw) fun _ => ?_
  exact triple_event hP

end

/-- What an import of a sync file leaves: the stored semaphore, or a new one that
is not stored yet. -/
def PayloadReady (reusable : Option Semaphore) (s : Semaphore) (w : LaneState) : Prop :=
  w.lane.importedAcquire = reusable ∧
    (reusable = some s ∧ IdleWith none w ∨
      reusable = none ∧ IdleWith (some s) w ∧ .createSemaphore .ready s ∉ w.events)

theorem triple_importTemporarySyncFd (fd : Int) (reusable : Option Semaphore) (r : ImportResults) :
    Triple (fun w => IdleWith none w ∧ w.lane.importedAcquire = reusable)
      (importTemporarySyncFd fd reusable r) (fun s => PayloadReady reusable s)
      fun _ w => IdleWith none w := by
  refine .bind (.conseq (.failWhen fun w hw _ => hw.1) (fun _ hw => hw) (fun _ _ hw => hw.1)
    fun _ _ hw => hw) fun _ => ?_
  cases reusable with
  | some s =>
    refine .bind ((triple_importSyncFile (P := fun w => IdleWith none w ∧
      w.lane.importedAcquire = some s) ?_).conseq (fun _ hw => hw) (fun _ _ hw => hw)
        fun _ _ hw => hw.1) fun _ => .pure fun w hw => ⟨hw.2, .inl ⟨rfl, hw.1⟩⟩
    exact fun w hw => ⟨idleWith_log hw.1 trivial trivial (fun _ => id) rfl, hw.2⟩
  | none =>
    refine .bind (triple_createSemaphore (P := fun lane => lane.importedAcquire = none)
      fun _ _ h => h) fun s => ?_
    refine .bind (.onFailure (triple_importSyncFile ?_) fun _ => triple_event ?_)
      fun _ => .pure fun w hw => ⟨hw.1.2, .inr ⟨rfl, hw.1.1, hw.2 _ (by decide)⟩⟩
    · rintro w ⟨⟨hidle, himported⟩, hcreated⟩
      refine ⟨⟨idleWith_log hidle trivial trivial (fun _ => id) rfl, himported⟩, ?_⟩
      intro other hother hmem
      rcases List.mem_cons.mp hmem with heq | hmem
      · cases heq
      · exact hcreated other hother hmem
    · exact fun w hw => ⟨hw.1.1.1.destroyLoose, hw.1.1.2⟩

theorem triple_importAcquireSync (fd : Option Int) (r : ImportResults) :
    Triple (IdleWith none) (importAcquireSync fd r) (fun _ => IdleWith none)
      fun _ w => IdleWith none w := by
  cases fd with
  | none => exact .pure fun _ hw => hw
  | some fd =>
    refine .bind triple_theLane fun lane => ?_
    refine .bind (.adapt ((triple_importTemporarySyncFd fd lane.importedAcquire r).conseq
      (fun w hw => ⟨hw.1, congrArg _ hw.2.symm⟩) (fun _ _ hw => hw) fun _ _ hw => hw)) fun s => ?_
    refine .bind (triple_update (Q := fun _ => IdleWith none) ?_) fun _ => .pure fun _ hw => hw
    rintro w ⟨himported, ⟨hreuse, hidle⟩ | ⟨hreuse, hidle, hpayload⟩⟩
    · have hsame : (w.set fun lane => { lane with importedAcquire := some s }) = w := by
        rw [← hreuse, ← himported]
        rfl
      rwa [hsame]
    · exact ⟨hidle.1.storePayload hpayload, hidle.2⟩

theorem triple_recorded {r : Except String (List Command)} {P : LaneState → Prop} :
    Triple P (recorded r) (fun _ => P) fun _ => P := by
  cases r with
  | ok commands => exact .pure fun _ hw => hw
  | error e => exact .throw fun _ hw => hw

theorem triple_prepareAcquire (s : Semaphore) (plan : AcquirePlan) (r : AcquireResults) :
    Triple (IdleWith (some s)) (prepareAcquire plan r) (fun _ => IdleWith (some s))
      fun _ => IdleWith (some s) := by
  refine .bind (.expect fun _ _ hw _ => hw) fun _ => ?_
  refine .bind (Q := fun _ => IdleWith (some s)) (triple_event fun w hw => ?_) fun _ =>
    .adapt ?_
  · exact idleWith_log hw trivial trivial (fun _ => id) rfl
  refine .bind (Q := fun _ => IdleWith (some s)) (triple_update fun w hw => ?_) fun _ => ?_
  · exact ⟨hw.1.set ⟨rfl, rfl, rfl, rfl, rfl, rfl, rfl⟩, hw.2⟩
  refine .bind (.expect fun _ _ hw _ => hw) fun _ => ?_
  refine .bind (Q := fun _ => IdleWith (some s)) (triple_event fun w hw => ?_) fun _ => ?_
  · exact idleWith_log hw trivial trivial (fun _ => id) rfl
  refine .bind triple_theLane fun lane => ?_
  exact triple_recorded.conseq (fun _ hw => hw.1) (fun _ _ hw => hw) fun _ _ hw => hw

theorem keeps_submitAcquire (imported : ImportView) (fd : Option Int) (r : AcquireResults) :
    Keeps (submitAcquire imported fd r) := by
  refine .bind triple_theLane fun lane => ?_
  refine .bind (.failWhen fun w hw _ => hw.1) fun _ => ?_
  refine .bind ((triple_importAcquireSync fd r.payload).conseq ?_ (fun _ _ hw => hw)
    fun _ _ hw => hw.1) fun wait => ?_
  · rintro w ⟨⟨hinv, rfl⟩, hidle⟩
    exact ⟨hinv, (Bool.or_eq_false_iff.mp hidle).1⟩
  refine .bind ((triple_createSemaphore (P := fun _ => True) fun _ _ h => h).conseq
    (fun w hw => ⟨hw, trivial⟩) (fun _ _ hw => hw.1.1) fun _ _ hw => hw.1) fun ready => ?_
  refine .bind (.onFailure (triple_prepareAcquire ready imported.acquirePlan r) fun _ =>
    triple_event fun w hw => hw.1.destroyLoose) fun commands => ?_
  rintro w ⟨hinv, hidle⟩
  have hfailed : ∀ e, e ≠ .deviceLost →
      LaneInv none ((w.log (.submit .acquire wait (some ready) commands (some e))).log
        (.destroySemaphore ready)) := by
    intro e he
    have hrun : ¬ MayRun (some e) := fun hrun => hrun.elim nofun fun heq => he (Option.some.inj heq)
    refine (hinv.unseen (e := .submit .acquire wait (some ready) commands (some e)) hrun trivial ?_
      (if_neg hrun)).destroyLoose
    intro s hs
    cases hs
    exact (hinv.held ready (.inl rfl)).1
  cases hsubmit : r.submit with
  | none =>
    have hlogged : LaneInv none (((w.log (.submit .acquire wait (some ready) commands none)).set
        (·.acquired imported ready)).log (.markAcquireSubmitted imported.importId)) :=
      (hinv.acquired imported wait commands (.inl rfl)).unseen trivial trivial (fun _ => False.elim)
        rfl
    exact hlogged
  | some e => cases e with
    | deviceLost =>
      exact (hinv.acquired imported wait commands (.inr rfl)).unseen (e := .markDeviceLost) trivial
        trivial (fun _ => False.elim) rfl
    | notReady => exact hfailed _ nofun
    | outOfHostMemory => exact hfailed _ nofun
    | outOfDeviceMemory => exact hfailed _ nofun
    | other name => exact hfailed _ nofun

/-- A poll of the release fence, for a lane that has submitted its release. -/
theorem LaneInv.polled {w : LaneState} (h : LaneInv none w) (status : Except VkError Bool)
    (hacquire : w.lane.acquireSubmitted = true) :
    LaneInv none (w.log (.fenceStatus .release status)) := by
  have hidle : ¬ w.lane.acquireSubmitted = false := fun hf => by rw [hacquire] at hf; cases hf
  by_cases hfenced : status = .ok true ∧ (queueView w.events).fenced = true
  · obtain ⟨rfl, hfenced⟩ := hfenced
    have hafter : (queueView w.events).after (.fenceStatus .release (.ok true)) =
        { queueView w.events with pending := false } := if_pos hfenced
    exact h.quiet trivial trivial (fun _ => False.elim) (fun hf => absurd hf hidle)
      (fun _ => by rw [hafter]; exact hfenced) (by rw [hafter])
  · refine h.unseen trivial trivial (fun _ => False.elim) ?_
    match status, hfenced with
    | .ok true, hfenced => exact if_neg fun hf => hfenced ⟨rfl, hf⟩
    | .ok false, _ => rfl
    | .error _, _ => rfl

theorem keeps_pollFence {side : Side} {status : Except VkError Bool} {kind : SyncErrorKind}
    {lost failed : String} {P : ImportedImageSync → Prop}
    (hlog : ∀ w, LaneInv none w → P w.lane → LaneInv none (w.log (.fenceStatus side status))) :
    Triple (fun w => LaneInv none w ∧ P w.lane) (pollFence side status kind lost failed)
      (fun _ w => LaneInv none w ∧ P w.lane) fun _ => LaneInv none := by
  refine .bind (Q := fun _ w => LaneInv none w ∧ P w.lane)
    (triple_event fun w hw => ⟨hlog w hw.1 hw.2, hw.2⟩) fun _ => ?_
  cases status with
  | ok signaled => exact .pure fun _ hw => hw
  | error e => cases e with
    | deviceLost =>
      exact fun w hw => hw.1.unseen (e := .markDeviceLost) trivial trivial (fun _ => False.elim) rfl
    | notReady => exact .throw fun _ hw => hw.1
    | outOfHostMemory => exact .throw fun _ hw => hw.1
    | outOfDeviceMemory => exact .throw fun _ hw => hw.1
    | other name => exact .throw fun _ hw => hw.1

theorem keeps_sourceReleaseComplete (status : Except VkError Bool) :
    Keeps (sourceReleaseComplete status) := by
  refine .bind triple_theLane fun lane => .bind (.failWhen fun w hw _ => hw.1) fun _ => ?_
  cases hstaged : lane.stagedImport with
  | false => exact .pure fun w hw => hw.1.1
  | true =>
    refine (keeps_pollFence (P := fun _ => True) fun w hw _ => ?_).conseq
      (fun w hw => ⟨hw.1.1, trivial⟩) (fun _ _ hw => hw.1) fun _ _ hw => hw
    exact hw.unseen trivial trivial (fun _ => False.elim) rfl

theorem keeps_ganeshWaitAccepted (semaphore : Nat) : Keeps (ganeshWaitAccepted semaphore) := by
  refine .bind triple_theLane fun lane => ?_
  cases hready : lane.readySemaphore with
  | none => exact .throw fun w hw => hw.1
  | some ready =>
    refine .bind (.failWhen fun w hw _ => hw.1) fun _ => ?_
    rintro w ⟨⟨hinv, rfl⟩, -⟩
    exact hinv.handOver hready

theorem keeps_ganeshWaitRejected (semaphore : Nat) : Keeps (ganeshWaitRejected semaphore) := by
  refine .bind triple_theLane fun lane => .bind (.failWhen fun w hw _ => hw.1) fun _ => ?_
  rintro w ⟨⟨hinv, rfl⟩, hready⟩
  cases hheld : w.lane.readySemaphore with
  | none =>
    rw [hheld] at hready
    cases hready
  | some ready => exact hinv.reject hheld

theorem keeps_submitRelease (imported : ImportView) (r : ReleaseResults) :
    Keeps (submitRelease imported r) := by
  refine .bind triple_theLane fun lane => ?_
  refine .bind (.failWhen fun w hw _ => hw.1) fun _ => ?_
  refine .bind (.failWhen fun w hw _ => hw.1.1) fun _ => ?_
  refine .bind (.failWhen fun w hw _ => hw.1.1.1) fun _ => ?_
  -- The lane has an acquire that the renderer has answered, and no release.
  let Ready : LaneState → Prop := fun w => LaneInv none w ∧ w.lane.acquireSubmitted = true ∧
    w.lane.releaseSubmitted = false ∧
      (w.lane.rendererAccepted = true ∨ w.lane.rendererRejected = true)
  have hlog : ∀ w e, Ready w → Quiet e → Allowed w.events e → (∀ s, ¬ Mentions s e) →
      (queueView w.events).after e = queueView w.events → Ready (w.log e) :=
    fun w e hw hquiet hallowed hmentions hqueue => ⟨hw.1.unseen hquiet hallowed
      (fun s hs => absurd hs (hmentions s)) hqueue, hw.2⟩
  refine .bind (Triple.conseq (P := Ready) (.expect (E := fun _ => Ready) fun _ _ hw _ => hw) ?_
    (fun _ _ hw => hw) fun _ _ hw => hw.1) fun _ => ?_
  · rintro w ⟨⟨⟨⟨hinv, rfl⟩, hrelease⟩, hanswer⟩, -⟩
    obtain ⟨hacquire, hanswer⟩ := Bool.or_eq_false_iff.mp hanswer
    refine ⟨hinv, by simpa using hacquire, hrelease, ?_⟩
    cases haccepted : w.lane.rendererAccepted with
    | true => exact .inl rfl
    | false =>
      rw [haccepted] at hanswer
      exact .inr (by simpa using hanswer)
  refine .bind (Q := fun _ => Ready) (triple_event fun w hw => ?_) fun _ => ?_
  · exact hlog w _ hw trivial trivial (fun _ => id) rfl
  refine .bind (.conseq (.expect (E := fun _ => Ready) fun _ _ hw _ => hw) (fun _ hw => hw)
    (fun _ _ hw => hw) fun _ _ hw => hw.1) fun _ => ?_
  refine .bind (Q := fun _ => Ready) (triple_event fun w hw => ?_) fun _ => ?_
  · exact hlog w _ hw trivial trivial (fun _ => id) rfl
  refine .bind (.adapt (triple_recorded.conseq (fun _ hw => hw) (fun _ _ hw => hw)
    fun _ _ hw => hw.1)) fun commands => ?_
  rintro w ⟨hinv, hacquire, hrelease, hanswer⟩
  have hidle : ¬ w.lane.acquireSubmitted = false := fun hf => by rw [hacquire] at hf; cases hf
  have hopen : ¬ w.lane.releaseSubmitted = true := fun hf => by rw [hrelease] at hf; cases hf
  cases hsubmit : r.submit with
  | none => exact hinv.release hacquire hrelease hanswer commands
  | some e =>
    have hlogged : LaneInv none (w.log (.submit .release none none commands (some e))) := by
      refine hinv.quiet trivial trivial (fun _ => False.elim) (fun hf => absurd hf hidle)
        (fun hf => absurd hf hopen) ?_
      cases e <;> rfl
    cases e with
    | deviceLost =>
      exact hlogged.unseen (e := .markDeviceLost) trivial trivial (fun _ => False.elim) rfl
    | notReady => exact hlogged
    | outOfHostMemory => exact hlogged
    | outOfDeviceMemory => exact hlogged
    | other name => exact hlogged

theorem keeps_collectTiming (values : Except VkError (UInt64 × UInt64 × UInt64)) :
    Keeps (collectTiming values) := by
  refine .bind triple_theLane fun lane => ?_
  cases lane.timingActive with
  | false => exact .pure fun w hw => hw.1
  | true =>
    refine .bind (Q := fun _ => LaneInv none) (triple_update fun w hw => ?_) fun _ => ?_
    · exact hw.1.set ⟨rfl, rfl, rfl, rfl, rfl, rfl, rfl⟩
    cases lane.timingCollected with
    | true => exact .pure fun w hw => hw
    | false =>
      cases lane.timestampQuery with
      | none => exact .pure fun w hw => hw
      | some query =>
        refine .bind (Q := fun _ => LaneInv none) (triple_event fun w hw => ?_) fun _ => ?_
        · exact hw.unseen trivial trivial (fun _ => False.elim) rfl
        have hreport : Keeps (ε := SyncError) (event (.reportVideoGpuTiming "failed")) :=
          triple_event fun w hw => hw.unseen trivial trivial (fun _ => False.elim) rfl
        cases values with
        | ok values =>
          exact triple_update fun w hw => hw.set ⟨rfl, rfl, rfl, rfl, rfl, rfl, rfl⟩
        | error e => cases e with
          | deviceLost =>
            exact fun w hw => hw.unseen (e := .markDeviceLost) trivial trivial
              (fun _ => False.elim) rfl
          | notReady => exact hreport
          | outOfHostMemory => exact hreport
          | outOfDeviceMemory => exact hreport
          | other name => exact .throw fun w hw => hw

theorem keeps_releaseComplete (r : CompleteResults) : Keeps (releaseComplete r) := by
  refine .bind triple_theLane fun lane => ?_
  cases hrelease : lane.releaseSubmitted with
  | false => exact .pure fun w hw => hw.1
  | true =>
    refine .bind ((keeps_pollFence (P := fun lane => lane.acquireSubmitted = true)
      fun w hw => hw.polled r.status).conseq ?_ (fun _ _ hw => hw.1) fun _ _ hw => hw)
      fun signaled => ?_
    · rintro w ⟨hinv, rfl⟩
      refine ⟨hinv, Bool.eq_true_of_not_eq_false fun hidle => ?_⟩
      rw [(hinv.idle hidle).2.2.2.1] at hrelease
      cases hrelease
    cases signaled with
    | false => exact .pure fun w hw => hw
    | true => exact .bind (keeps_collectTiming r.values) fun _ => .pure fun w hw => hw

theorem keeps_takeTiming : Keeps takeTiming := by
  refine .bind triple_theLane fun lane => ?_
  refine .bind (Q := fun _ => LaneInv none) (triple_update fun w hw => ?_) fun _ =>
    .pure fun w hw => hw
  exact hw.1.set ⟨rfl, rfl, rfl, rfl, rfl, rfl, rfl⟩

/-! ## Reuse -/

/-- A lane whose release is over. -/
structure Finished (w : LaneState) : Prop where
  /-- The lane is in order. -/
  inv : LaneInv none w
  /-- A release was submitted. -/
  released : w.lane.releaseSubmitted = true
  /-- Nothing is running. -/
  settled : (queueView w.events).pending = false

/-- The last signal of a finished lane has been seen complete. -/
theorem Finished.seenComplete {w : LaneState} (h : Finished w) {s : Semaphore}
    (hready : w.lane.readySemaphore = some s) : SeenComplete s w.events := by
  have hsignals := h.inv.signals s hready
  have hfenced := (h.inv.released h.released).1
  have hsettled := h.settled
  show queueView w.events = _
  match queueView w.events, hsignals, hsettled, hfenced with
  | ⟨_, _, _⟩, rfl, rfl, rfl => rfl

/-- The release fence, polled and signalled. -/
theorem LaneInv.finished {w : LaneState} (h : LaneInv none w)
    (hrelease : w.lane.releaseSubmitted = true) :
    Finished (w.log (.fenceStatus .release (.ok true))) := by
  have hacquire : w.lane.acquireSubmitted = true := Bool.eq_true_of_not_eq_false fun hidle => by
    rw [(h.idle hidle).2.2.2.1] at hrelease
    cases hrelease
  refine ⟨h.polled _ hacquire, hrelease, ?_⟩
  show ((queueView w.events).after _).pending = false
  rw [QueueView.after, if_pos (h.released hrelease).1]

/-- Nothing is left to accept once a rejected semaphore is destroyed. -/
theorem triple_destroyRejected {E : String → LaneState → Prop} :
    Triple Finished destroyRejected
      (fun _ w => Finished w ∧ w.lane.readySemaphore = none) E := by
  intro w hw
  rw [exec_destroyRejected]
  cases hready : w.lane.readySemaphore with
  | none =>
    cases w.lane.rendererRejected with
    | true => exact ⟨hw, hready⟩
    | false => exact ⟨hw, hready⟩
  | some s =>
    cases hrejected : w.lane.rendererRejected with
    | false =>
      -- Not rejected, so accepted: then the renderer has it.
      rcases (hw.inv.released hw.released).2 with haccepted | hrejected'
      · rw [hw.inv.accepted haccepted] at hready
        cases hready
      · rw [hrejected] at hrejected'
        cases hrejected'
    | true =>
      have hdestroyed : LaneInv none ((w.set fun lane =>
          { lane with readySemaphore := none }).log (.destroySemaphore s)) := by
        refine hw.inv.destroy (.inr (.inl hready)) (fun _ => hw.seenComplete hready) ?_
          (fun _ ht => ht) nofun (fun _ ht => ht) ⟨rfl, rfl, rfl, rfl, rfl⟩
        intro t
        simp only [Holds, hready, reduceCtorEq, false_or, Option.some.injEq]
        constructor
        · refine fun ht => ⟨.inr ht, ?_⟩
          rintro rfl
          exact (hw.inv.payload t ht).2.1 hready
        · rintro ⟨rfl | ht, hne⟩
          · exact absurd rfl hne
          · exact ht
      exact ⟨⟨hdestroyed, hw.released, hw.settled⟩, rfl⟩

/-- A finished lane without a ready semaphore starts again. -/
theorem Finished.cleared {w : LaneState} (h : Finished w) (hready : w.lane.readySemaphore = none) :
    LaneInv none (w.set ImportedImageSync.cleared) where
  legal := h.inv.legal
  serials := h.inv.serials
  held := h.inv.held
  payload := h.inv.payload
  unstored := nofun
  accounted := h.inv.accounted
  idle := fun _ => ⟨hready, rfl, rfl, rfl, h.settled⟩
  released := nofun
  accepted := nofun
  signals := h.inv.signals

/-- The error that a lane would give for a semaphore it still waits to be accepted. -/
def unacceptedError : String :=
  "cannot reuse Vulkan image sync with an unaccepted ready semaphore"

/-- A reset keeps the invariant, and never finds a semaphore unaccepted. -/
theorem triple_resetForReuse (status : Except VkError Bool) :
    Triple (LaneInv none) (resetForReuse status) (fun _ => LaneInv none)
      fun e w => LaneInv none w ∧ e ≠ unacceptedError := by
  refine .bind triple_theLane fun lane => ?_
  refine .bind (.failWhen fun w hw _ => ⟨hw.1, by decide⟩) fun _ => ?_
  have hacquire : ∀ w, LaneInv none w → w.lane.releaseSubmitted = true →
      w.lane.acquireSubmitted = true := fun w hinv hrelease =>
    Bool.eq_true_of_not_eq_false fun hidle => by
      rw [(hinv.idle hidle).2.2.2.1] at hrelease
      cases hrelease
  cases status with
  | error e =>
    rintro w ⟨⟨hinv, rfl⟩, hrelease⟩
    refine ⟨hinv.polled (.error e) (hacquire w hinv (by simpa using hrelease)), ?_⟩
    intro heq
    have hchars := congrArg String.toList heq
    simp [unacceptedError] at hchars
  | ok complete => cases complete with
    | false =>
      rintro w ⟨⟨hinv, rfl⟩, hrelease⟩
      exact ⟨hinv.polled (.ok false) (hacquire w hinv (by simpa using hrelease)), by decide⟩
    | true =>
      refine .bind (Q := fun _ => Finished) (triple_event ?_) fun _ => ?_
      · rintro w ⟨⟨hinv, rfl⟩, hrelease⟩
        exact hinv.finished (by simpa using hrelease)
      refine .bind (.conseq (.failWhen (E := fun _ _ => False) fun _ _ hc => by cases hc)
        (fun _ hw => hw) (fun _ _ hw => hw.1) fun _ _ hw => hw.elim) fun _ => ?_
      refine .bind triple_destroyRejected fun _ => ?_
      refine .bind triple_theLane fun lane' => ?_
      refine .bind (.conseq (.failWhen (E := fun _ _ => False) ?_) (fun _ hw => hw)
        (fun _ _ hw => hw.1) fun _ _ hw => hw.elim) fun _ =>
          triple_update fun w hw => hw.1.1.cleared hw.1.2
      rintro w ⟨⟨-, hready⟩, rfl⟩ hsome
      rw [hready] at hsome
      cases hsome

/-! ## Drop -/

/-- What dropping a lane destroys, latest first. -/
def childEvents (lane : ImportedImageSync) : List LaneEvent :=
  [.destroyCommandPool .acquire, .destroyCommandPool .release, .destroyFence .acquire,
      .destroyFence .release] ++
    (lane.timestampQuery.map fun query => .destroyQueryPool query.pool).toList ++
    (lane.readySemaphore.map .destroySemaphore).toList ++
    (lane.importedAcquire.map .destroySemaphore).toList

theorem exec_destroyChildren (w : LaneState) :
    (destroyChildren.exec w).2.events = childEvents w.lane ++ w.events := by
  rw [destroyChildren]
  obtain ⟨lane, events⟩ := w
  obtain ⟨family, imported, ready, id, staged, acquire, accepted, rejected, release, query, active,
    collected, timing, n⟩ := lane
  cases imported <;> cases ready <;> cases query <;> rfl

/-- An idle lane and a finished lane may destroy all they own. -/
theorem LaneInv.legal_children {w : LaneState} (h : LaneInv none w)
    (hsettled : (queueView w.events).pending = false)
    (hcomplete : ∀ s, w.lane.readySemaphore = some s → SeenComplete s w.events) :
    Legal Allowed (childEvents w.lane ++ w.events) := by
  -- Destroying a semaphore does not change the queue.
  have himported : Legal Allowed
      ((w.lane.importedAcquire.map .destroySemaphore).toList ++ w.events) ∧
      queueView ((w.lane.importedAcquire.map .destroySemaphore).toList ++ w.events) =
        queueView w.events := by
    cases hs : w.lane.importedAcquire with
    | none => exact ⟨h.legal, rfl⟩
    | some s => exact ⟨h.legal.cons ⟨(h.held s (.inr (.inr hs))).2,
        fun hsub => absurd hsub (h.payload s hs).2.2.2⟩, rfl⟩
  have hready : Legal Allowed ((w.lane.readySemaphore.map .destroySemaphore).toList ++
        ((w.lane.importedAcquire.map .destroySemaphore).toList ++ w.events)) ∧
      queueView ((w.lane.readySemaphore.map .destroySemaphore).toList ++
        ((w.lane.importedAcquire.map .destroySemaphore).toList ++ w.events)) =
        queueView w.events := by
    cases hs : w.lane.readySemaphore with
    | none => exact himported
    | some s =>
      refine ⟨himported.1.cons ⟨fun hd => ?_, fun _ => ?_⟩, himported.2⟩
      · have hlive := (h.held s (.inr (.inl hs))).2
        cases ht : w.lane.importedAcquire with
        | none =>
          rw [ht] at hd
          exact hlive hd
        | some t =>
          rw [ht] at hd
          refine (disposed_destroy.mp hd).elim ?_ hlive
          rintro rfl
          exact (h.payload s ht).2.1 hs
      · exact himported.2.trans (hcomplete s hs)
  obtain ⟨hlegal, hview⟩ := hready
  rw [← hview] at hsettled
  have hquery : ∀ past, Legal Allowed past → (queueView past).pending = false →
      Legal Allowed (.destroyCommandPool .acquire :: .destroyCommandPool .release ::
        .destroyFence .acquire :: .destroyFence .release :: past) :=
    fun past hpast hidle => .cons (.cons (.cons (.cons hpast hidle) hidle) hidle) hidle
  simp only [childEvents, List.append_assoc, List.cons_append, List.nil_append]
  cases w.lane.timestampQuery with
  | none => exact hquery _ hlegal hsettled
  | some query => exact hquery (.destroyQueryPool query.pool :: _) (.cons hlegal hsettled) hsettled

/-- What a drop does: with nothing outstanding it destroys what the lane owns,
otherwise it marks the device lost and destroys nothing.  Nothing is outstanding before
an acquire, and when the drop's own poll sees the release signalled. -/
theorem LaneInv.dropped {w : LaneState} (h : LaneInv none w) (status : Except VkError Bool) :
    ∃ polled, (polled = w.events ∨ polled = .fenceStatus .release status :: w.events) ∧
      Legal Allowed ((drop status).exec w).2.events ∧
      ((queueView polled).pending = false ∧
          ((drop status).exec w).2.events = childEvents w.lane ++ polled ∨
        ((drop status).exec w).2.events = .markDeviceLost :: polled) ∧
      (w.lane.acquireSubmitted = false ∨ w.lane.releaseSubmitted = true ∧ status = .ok true →
        ((drop status).exec w).2.events = childEvents w.lane ++ polled) := by
  have hquarantine : ∀ {w : LaneState}, LaneInv none w →
      Legal Allowed (.markDeviceLost :: w.events) := fun hinv => hinv.legal.cons trivial
  -- A fence that cannot be read is one that was not seen to be signaled.
  obtain ⟨signaled, hstatus⟩ : ∃ signaled, status = .ok signaled ∨
      ((∃ e, status = .error e) ∧ signaled = false) := by
    cases status with
    | ok signaled => exact ⟨signaled, .inl rfl⟩
    | error e => exact ⟨false, .inr ⟨⟨e, rfl⟩, rfl⟩⟩
  have hexec : (drop status).exec w = (do
      if ← (if !w.lane.acquireSubmitted then pure true
        else if w.lane.releaseSubmitted then do
          event (.fenceStatus .release status)
          pure signaled
        else pure false) then destroyChildren else event .markDeviceLost :
          Effect LaneState Empty Unit).exec w := by
    rcases hstatus with rfl | ⟨⟨e, rfl⟩, rfl⟩ <;> rfl
  rw [hexec]
  cases hacquire : w.lane.acquireSubmitted with
  | false =>
    obtain ⟨hready, -, -, -, hsettled⟩ := h.idle hacquire
    have hevents := exec_destroyChildren w
    refine ⟨w.events, .inl rfl, ?_, .inl ⟨hsettled, hevents⟩, fun _ => hevents⟩
    refine Eq.substr hevents (h.legal_children hsettled fun s hs => ?_)
    rw [hready] at hs
    cases hs
  | true => cases hrelease : w.lane.releaseSubmitted with
    | false =>
      refine ⟨w.events, .inl rfl, hquarantine h, .inr rfl, ?_⟩
      rintro (hidle | ⟨hsubmitted, -⟩)
      · cases hidle
      · cases hsubmitted
    | true =>
      refine ⟨_, .inr rfl, ?_⟩
      cases signaled with
      | false =>
        refine ⟨hquarantine (h.polled status hacquire), .inr rfl, ?_⟩
        rintro (hidle | ⟨-, rfl⟩)
        · cases hidle
        · simp at hstatus
      | true =>
        obtain rfl : status = .ok true := by simpa using hstatus
        have hfinished := h.finished hrelease
        have hevents := exec_destroyChildren (w.log (.fenceStatus .release (.ok true)))
        refine ⟨?_, .inl ⟨hfinished.settled, hevents⟩, fun _ => hevents⟩
        exact Eq.substr hevents (hfinished.inv.legal_children hfinished.settled
          fun s hs => hfinished.seenComplete hs)

/-! ## Every run -/

/-- Every method keeps the invariant. -/
theorem LaneInv.perform_call {w : LaneState} (h : LaneInv none w) (call : LaneCall) :
    LaneInv none (call.perform w) := by
  have hkeeps : ∀ {ε α : Type} {x : Effect LaneState ε α}, Keeps x → LaneInv none (x.exec w).2 := by
    intro ε α x hx
    have hpost := hx w h
    match x.exec w, hpost with
    | (.ok _, _), hpost => exact hpost
    | (.error _, _), hpost => exact hpost
  cases call with
  | submitAcquire imported fd r => exact hkeeps (keeps_submitAcquire imported fd r)
  | sourceReleaseComplete status => exact hkeeps (keeps_sourceReleaseComplete status)
  | ganeshWaitAccepted semaphore => exact hkeeps (keeps_ganeshWaitAccepted semaphore)
  | ganeshWaitRejected semaphore => exact hkeeps (keeps_ganeshWaitRejected semaphore)
  | submitRelease imported r => exact hkeeps (keeps_submitRelease imported r)
  | releaseComplete r => exact hkeeps (keeps_releaseComplete r)
  | takeTiming => exact hkeeps keeps_takeTiming
  | resetForReuse status =>
    exact hkeeps ((triple_resetForReuse status).conseq (fun _ hw => hw) (fun _ _ hw => hw)
      fun _ _ hw => hw.1)

theorem LaneInv.perform {w : LaneState} (h : LaneInv none w) (calls : List LaneCall) :
    LaneInv none (w.perform calls) := by
  induction calls generalizing w with
  | nil => exact h
  | cons call calls ih => exact ih (h.perform_call call)

/-- **A lane and its handles.**  After any calls with any results, and a drop:
each semaphore is destroyed at most once, not after the renderer has taken it
over, and if its signal was submitted only after its release fence was seen
signalled; each ready semaphore is disposed of or still held, and at the drop
left to a device marked lost if it is not disposed of; a reset never gives the
error for an unaccepted semaphore; and the drop destroys all that the lane owns or
nothing, marking the device lost.  It destroys only when nothing is outstanding, and it
does so when no acquire was submitted and when a release was and the drop's own poll
sees its fence signalled. -/
theorem lane_handles (family : QueueFamily) (query : Option TimestampQuery)
    (calls : List LaneCall) (status : Except VkError Bool) :
    let w := (LaneState.new family query).perform calls
    let dropped := ((drop status).exec w).2
    (∀ s past, .destroySemaphore s :: past <:+ dropped.events →
      .destroySemaphore s ∉ past ∧ .handOver s ∉ past ∧ (Submitted s past → SeenComplete s past)) ∧
    (∀ s, .createSemaphore .ready s ∈ w.events →
      .destroySemaphore s ∈ w.events ∨ .handOver s ∈ w.events ∨ w.lane.readySemaphore = some s) ∧
    (∀ s, .createSemaphore .ready s ∈ dropped.events → .destroySemaphore s ∈ dropped.events ∨
      .handOver s ∈ dropped.events ∨
        w.lane.readySemaphore = some s ∧ .markDeviceLost ∈ dropped.events) ∧
    (∀ status', ((resetForReuse status').exec w).1 ≠ .error unacceptedError) ∧
    ∃ polled, (polled = w.events ∨ polled = .fenceStatus .release status :: w.events) ∧
      ((queueView polled).pending = false ∧ dropped.events = childEvents w.lane ++ polled ∨
        dropped.events = .markDeviceLost :: polled) ∧
      (w.lane.acquireSubmitted = false ∨ w.lane.releaseSubmitted = true ∧ status = .ok true →
        dropped.events = childEvents w.lane ++ polled) := by
  intro w dropped
  have hinv : LaneInv none w := (LaneInv.new family query).perform calls
  obtain ⟨polled, hpolled, hlegal, hdropped, hsettled⟩ := hinv.dropped status
  have hkept : ∀ e ∈ w.events, e ∈ polled := by
    rcases hpolled with rfl | rfl
    · exact fun _ => id
    · exact fun _ => List.mem_cons_of_mem _
  have hmade : ∀ s, .createSemaphore .ready s ∈ polled → .createSemaphore .ready s ∈ w.events := by
    rcases hpolled with rfl | rfl
    · exact fun _ => id
    · intro s hs
      simpa using hs
  refine ⟨?_, ?_, ?_, ?_, polled, hpolled, hdropped, hsettled⟩
  · intro s past hsuffix
    obtain ⟨hlive, hcomplete⟩ := hlegal.allowed_of_suffix hsuffix
    exact ⟨fun hd => hlive (.inl hd), fun hd => hlive (.inr hd), hcomplete⟩
  · intro s hs
    rcases hinv.accounted s hs with (hd | hd) | hr | hl
    · exact .inl hd
    · exact .inr (.inl hd)
    · exact .inr (.inr hr)
    · cases hl
  · intro s hs
    rcases hdropped with ⟨-, heq⟩ | heq
    · have hs' : .createSemaphore .ready s ∈ w.events := by
        rw [show dropped.events = _ from heq] at hs
        refine hmade s ?_
        simpa [childEvents] using hs
      rw [show dropped.events = _ from heq]
      rcases hinv.accounted s hs' with (hd | hd) | hr | hl
      · exact .inl (List.mem_append_right _ (hkept _ hd))
      · exact .inr (.inl (List.mem_append_right _ (hkept _ hd)))
      · exact .inl (List.mem_append_left _ (by simp [childEvents, hr]))
      · cases hl
    · have hs' : .createSemaphore .ready s ∈ w.events := by
        rw [show dropped.events = _ from heq] at hs
        refine hmade s ?_
        simpa using hs
      rw [show dropped.events = _ from heq]
      rcases hinv.accounted s hs' with (hd | hd) | hr | hl
      · exact .inl (List.mem_cons_of_mem _ (hkept _ hd))
      · exact .inr (.inl (List.mem_cons_of_mem _ (hkept _ hd)))
      · exact .inr (.inr ⟨hr, List.mem_cons_self⟩)
      · cases hl
  · intro status' heq
    have hpost := triple_resetForReuse status' w hinv
    match hexec : (resetForReuse status').exec w, hpost with
    | (.ok _, _), _ =>
      rw [hexec] at heq
      cases heq
    | (.error e, _), hpost =>
      rw [hexec] at heq
      exact hpost.2 (Except.error.inj heq)

/-- An acquire of a direct image, whose semaphore the renderer takes over, and its
release. -/
def sampleLaneCalls : List LaneCall := [
  .submitAcquire ⟨⟨1⟩, false, ⟨1⟩, .directImage ⟨1⟩⟩ none
    ⟨⟨.ok 3, none, none⟩, .ok 4, none, false, none, .success, none⟩,
  .ganeshWaitAccepted 4,
  .submitRelease ⟨⟨1⟩, false, ⟨1⟩, .directImage ⟨1⟩⟩ ⟨none, none, .success, none⟩]

-- A drop that sees the release signalled destroys, and one that does not marks.
example :
    let w := (LaneState.new 0 none).perform sampleLaneCalls
    ((drop (.ok true)).exec w).2.events =
        childEvents w.lane ++ .fenceStatus .release (.ok true) :: w.events ∧
      ((drop (.ok false)).exec w).2.events =
        .markDeviceLost :: .fenceStatus .release (.ok false) :: w.events := ⟨rfl, rfl⟩

end VideoInterop.Vulkan
