import VideoInterop.Vulkan.Lane

/-!
# What the calls of a lane can come to

A lane learns from three calls of the device how its work goes: submissions, fence
polls and timestamp reads.  Its core is what it has heard from them, with the marks of
a lost device, and the fields that these calls turn on.  Making, importing and
destroying semaphores does not touch the core.

For each method there is one relation that lists what it can do to the core, and one
theorem that it does nothing else.
-/

namespace VideoInterop.Vulkan

open VideoInterop (Effect)
open VideoInterop.Effect

/-! ## The core -/

/-- The events in which a lane hears from its device, and the marks of a lost one. -/
def LaneEvent.heard : LaneEvent → Bool
  | submit _ _ _ _ _ | fenceStatus _ _ | queryPoolResults _ _ | markDeviceLost => true
  | _ => false

/-- What a lane's outcomes depend on. -/
structure LaneCore where
  /-- What was heard, latest first. -/
  heard : List LaneEvent
  /-- The queue family. -/
  family : QueueFamily
  /-- The import that was acquired. -/
  importId : Option ImportId
  /-- Was it a staged one? -/
  stagedImport : Bool
  /-- Was an acquire submitted? -/
  acquireSubmitted : Bool
  /-- Was a release submitted? -/
  releaseSubmitted : Bool
  /-- The timestamps, if the device has them. -/
  timestampQuery : Option TimestampQuery
  /-- Does this bracket take timestamps? -/
  timingActive : Bool
  /-- Were they read? -/
  timingCollected : Bool
  /-- What they said, until it is taken. -/
  timing : Option VideoTiming

/-- The core of a lane. -/
def LaneState.core (w : LaneState) : LaneCore where
  heard := w.events.filter (·.heard)
  family := w.lane.family
  importId := w.lane.importId
  stagedImport := w.lane.stagedImport
  acquireSubmitted := w.lane.acquireSubmitted
  releaseSubmitted := w.lane.releaseSubmitted
  timestampQuery := w.lane.timestampQuery
  timingActive := w.lane.timingActive
  timingCollected := w.lane.timingCollected
  timing := w.lane.timing

/-- Hear an event. -/
def LaneCore.hear (c : LaneCore) (e : LaneEvent) : LaneCore := { c with heard := e :: c.heard }

theorem core_log {w : LaneState} {e : LaneEvent} (he : e.heard = true) :
    (w.log e).core = w.core.hear e := by
  simp [LaneState.core, LaneState.log, LaneCore.hear, he]

theorem core_log_unheard {w : LaneState} {e : LaneEvent} (he : e.heard = false) :
    (w.log e).core = w.core := by
  simp [LaneState.core, LaneState.log, he]

section
variable {ε : Type} {c : LaneCore} {e : LaneEvent} {E : ε → LaneState → Prop}

theorem preserves_event (he : e.heard = false) :
    Preserves LaneState.core (event e : Effect LaneState ε Unit) :=
  fun _ => core_log_unheard he

theorem preserves_theLane : Preserves LaneState.core (theLane : Effect LaneState ε _) :=
  fun _ => rfl

theorem triple_hear (he : e.heard = true) :
    Triple (fun w => w.core = c) (event e) (fun _ w => w.core = c.hear e) E := by
  rintro w rfl
  exact core_log he

theorem triple_unheard (he : e.heard = false) :
    Triple (fun w => w.core = c) (event e) (fun _ w => w.core = c) E := by
  rintro w rfl
  exact core_log_unheard he

theorem triple_updateCore {f : ImportedImageSync → ImportedImageSync} {c' : LaneCore}
    (hf : ∀ w : LaneState, w.core = c → (w.set f).core = c') :
    Triple (fun w => w.core = c) (update f) (fun _ w => w.core = c') E := hf

/-- Look at the lane. -/
theorem triple_look {P : LaneState → Prop} :
    Triple P theLane (fun lane w => lane = w.lane ∧ P w) E := fun _ hw => ⟨rfl, hw⟩

end

/-! ## Acquire -/

theorem preserves_createSemaphore {ε : Type} {purpose : Purpose} {made : Made}
    {e : VkError → ε} : Preserves LaneState.core (createSemaphore purpose made e) := by
  cases made with
  | error x => exact .throw
  | ok handle =>
      refine .bind preserves_theLane fun lane => .bind (fun w => rfl) fun _ => ?_
      exact .bind (preserves_event rfl) fun _ => .pure

theorem preserves_importSyncFile {s : Semaphore} {r : ImportResults} :
    Preserves LaneState.core (importSyncFile s r) :=
  .bind .expect fun _ => .bind .expect fun _ => preserves_event rfl

theorem preserves_importTemporarySyncFd {sourceFd : Int} {reusable : Option Semaphore}
    {r : ImportResults} : Preserves LaneState.core (importTemporarySyncFd sourceFd reusable r) := by
  refine .bind .failWhen fun _ => ?_
  cases reusable with
  | some s => exact .bind preserves_importSyncFile fun _ => .pure
  | none =>
      refine .bind preserves_createSemaphore fun s => ?_
      exact .bind (.onFailure preserves_importSyncFile (preserves_event rfl)) fun _ => .pure

theorem preserves_importAcquireSync {fd : Option Int} {r : ImportResults} :
    Preserves LaneState.core (importAcquireSync fd r) := by
  cases fd with
  | none => exact .pure
  | some fd =>
      refine .bind preserves_theLane fun lane => ?_
      refine .bind (.adapt preserves_importTemporarySyncFd) fun s => ?_
      exact .bind (fun w => rfl) fun _ => .pure

/-- Whether an acquire with this plan is timed. -/
def LaneCore.timed (c : LaneCore) (plan : AcquirePlan) (r : AcquireResults) : Bool :=
  !plan.isDirectImage && c.timestampQuery.isSome && r.sampled

/-- The pool that a lane writes timestamps to. -/
def LaneCore.activeQuery (c : LaneCore) : Option Nat :=
  if c.timingActive then c.timestampQuery.map (·.pool) else none

/-- The choice to time is made while recording. -/
def LaneCore.chosen (c : LaneCore) (plan : AcquirePlan) (r : AcquireResults) : LaneCore :=
  { c with timingActive := c.timed plan r }

theorem triple_recordedCommands {result : Except String (List Command)} {P : LaneState → Prop} :
    Triple P (recorded result) (fun commands w => result = .ok commands ∧ P w) fun _ => P := by
  cases result with
  | ok commands => exact .pure fun w hw => ⟨rfl, hw⟩
  | error e => exact .throw fun w hw => hw

theorem triple_recordAcquire {c : LaneCore} {plan : AcquirePlan} {r : AcquireResults} :
    Triple (fun w => w.core = c) (recordAcquire plan r)
      (fun commands w => recordPlan c.family r.record plan (c.chosen plan r).activeQuery =
        .ok commands ∧ w.core = c.chosen plan r)
      fun _ w => w.core = c.chosen plan r := by
  refine .bind (Q := fun _ w => w.core = c.chosen plan r) ?_ fun _ => ?_
  · rintro w rfl
    rfl
  refine .bind (Preserves.triple .expect) fun _ => .bind (triple_unheard rfl) fun _ => ?_
  refine .bind triple_look fun lane => (triple_recordedCommands.onOk ?_).onError fun _ _ hw => hw.2
  · rintro commands w ⟨hcommands, rfl, hw⟩
    have hquery : activeTimestampQuery w.lane = w.core.activeQuery := rfl
    have hfamily : w.lane.family = w.core.family := rfl
    rw [hquery, hfamily, hw] at hcommands
    exact ⟨hcommands, hw⟩

theorem triple_prepareAcquire_core {c : LaneCore} {plan : AcquirePlan} {r : AcquireResults} :
    Triple (fun w => w.core = c) (prepareAcquire plan r)
      (fun commands w => recordPlan c.family r.record plan (c.chosen plan r).activeQuery =
        .ok commands ∧ w.core = c.chosen plan r)
      fun _ w => w.core = c ∨ w.core = c.chosen plan r := by
  refine .bind ((Preserves.triple .expect).onError fun _ _ hw => .inl hw) fun _ => ?_
  refine .bind (triple_unheard rfl) fun _ => ?_
  exact .adapt (triple_recordAcquire.onError fun _ _ hw => .inr hw)

/-- The lane takes on an import. -/
def LaneCore.acquired (c : LaneCore) (imported : ImportView) : LaneCore :=
  { c with
    importId := some imported.importId
    stagedImport := imported.isStaged
    acquireSubmitted := true }

/-- The lane is between an import and the next. -/
def LaneCore.Idle (c : LaneCore) : Prop := c.acquireSubmitted = false ∧ c.releaseSubmitted = false

/-- What an acquire comes to. -/
inductive AcquireOutcome (imported : ImportView) (r : AcquireResults) (c : LaneCore) :
    LaneCore → Prop
  | refused : AcquireOutcome imported r c c
  | unsubmitted (hidle : c.Idle) : AcquireOutcome imported r c (c.chosen imported.acquirePlan r)
  | submitted {wait ready : Option Semaphore} {commands : List Command} (hidle : c.Idle)
      (hrecord : recordPlan c.family r.record imported.acquirePlan
        (c.chosen imported.acquirePlan r).activeQuery = .ok commands) :
      AcquireOutcome imported r c (((c.chosen imported.acquirePlan r).hear
        (.submit .acquire wait ready commands none)).acquired imported)
  | lost {wait ready : Option Semaphore} {commands : List Command} (hidle : c.Idle) :
      AcquireOutcome imported r c ((((c.chosen imported.acquirePlan r).hear
        (.submit .acquire wait ready commands (some .deviceLost))).acquired imported).hear
          .markDeviceLost)
  | failed {wait ready : Option Semaphore} {commands : List Command} {e : VkError} (hidle : c.Idle)
      (he : e ≠ .deviceLost) :
      AcquireOutcome imported r c ((c.chosen imported.acquirePlan r).hear
        (.submit .acquire wait ready commands (some e)))

theorem triple_submitAcquire {c : LaneCore} {imported : ImportView} {fd : Option Int}
    {r : AcquireResults} :
    Triple (fun w => w.core = c) (submitAcquire imported fd r)
      (fun _ w => AcquireOutcome imported r c w.core)
      fun _ w => AcquireOutcome imported r c w.core := by
  have hrefused {w : LaneState} (hw : w.core = c) : AcquireOutcome imported r c w.core :=
    hw ▸ .refused
  refine .bind triple_look fun lane => ?_
  refine .bind (.failWhen fun w hw _ => hrefused hw.2) fun _ => ?_
  have hidle {w : LaneState} (hw : (lane = w.lane ∧ w.core = c) ∧
      (lane.acquireSubmitted || lane.releaseSubmitted) = false) : c.Idle ∧ w.core = c := by
    obtain ⟨⟨rfl, rfl⟩, hidle⟩ := hw
    exact ⟨Bool.or_eq_false_iff.mp hidle, rfl⟩
  refine .conseq (.of_fact fun hidle => ?_) (fun _ hw => hidle hw) (fun _ _ hw => hw)
    fun _ _ hw => hw
  refine .bind (preserves_importAcquireSync.triple.onError fun _ _ => hrefused) fun wait => ?_
  refine .bind (preserves_createSemaphore.triple.onError fun _ _ => hrefused) fun ready => ?_
  refine .bind (.onFailure triple_prepareAcquire_core fun _ => ?_) fun commands =>
    .of_fact fun hrecord => ?_
  · rintro w hw
    show AcquireOutcome imported r c (w.log (.destroySemaphore ready)).core
    rw [core_log_unheard rfl]
    rcases hw with hw | hw
    · exact hw ▸ .refused
    · exact hw ▸ .unsubmitted hidle
  have hacquired {c' : LaneCore} {w : LaneState} (hw : w.core = c') :
      (w.set (·.acquired imported ready)).core = c'.acquired imported := hw ▸ rfl
  refine .bind (triple_hear rfl) fun _ => ?_
  cases r.submit with
  | none =>
      refine .bind (triple_unheard rfl) fun _ => .bind (triple_updateCore fun _ => hacquired)
        fun _ => .pure fun w hw => hw ▸ .submitted hidle hrecord
  | some e => cases e with
    | deviceLost =>
        refine .bind (triple_updateCore fun _ => hacquired) fun _ => .bind (triple_hear rfl)
          fun _ => .throw fun w hw => hw ▸ .lost hidle
    | notReady | outOfHostMemory | outOfDeviceMemory | other name =>
        refine .bind (triple_unheard rfl) fun _ => .throw fun w hw => hw ▸ .failed hidle nofun

/-! ## Polls and answers -/

/-- What a poll of a fence comes to. -/
inductive PollOutcome (side : Side) (status : Except VkError Bool) (c : LaneCore) :
    LaneCore → Prop
  | answered (hstatus : status ≠ .error .deviceLost) :
      PollOutcome side status c (c.hear (.fenceStatus side status))
  | lost (hstatus : status = .error .deviceLost) :
      PollOutcome side status c ((c.hear (.fenceStatus side status)).hear .markDeviceLost)

theorem triple_pollFence {c : LaneCore} {side : Side} {status : Except VkError Bool}
    {kind : SyncErrorKind} {lost failed : String} :
    Triple (fun w => w.core = c) (pollFence side status kind lost failed)
      (fun signaled w => status = .ok signaled ∧ w.core = c.hear (.fenceStatus side status))
      fun _ w => (∀ signaled, status ≠ .ok signaled) ∧ PollOutcome side status c w.core := by
  refine .bind (triple_hear rfl) fun _ => ?_
  cases status with
  | ok signaled => exact .pure fun w hw => ⟨rfl, hw⟩
  | error e => cases e with
    | deviceLost =>
        refine .bind (triple_hear rfl) fun _ => .throw fun w hw => ⟨nofun, ?_⟩
        exact hw ▸ .lost rfl
    | notReady | outOfHostMemory | outOfDeviceMemory | other name =>
        exact .throw fun w hw => ⟨nofun, hw ▸ .answered nofun⟩

theorem triple_sourceReleaseComplete {c : LaneCore} {status : Except VkError Bool} :
    Triple (fun w => w.core = c) (sourceReleaseComplete status)
      (fun _ w => w.core = c ∨ PollOutcome .acquire status c w.core)
      fun _ w => w.core = c ∨ PollOutcome .acquire status c w.core := by
  refine .bind triple_look fun lane => ?_
  refine .bind (.failWhen fun w hw _ => .inl hw.2) fun _ => ?_
  refine .conseq (P := fun w => w.core = c) ?_ (fun _ hw => hw.1.2) (fun _ _ hw => hw)
    fun _ _ hw => hw
  cases lane.stagedImport with
  | false => exact .pure fun w hw => .inl hw
  | true =>
      refine (triple_pollFence.onOk fun signaled w hw => .inr ?_).onError fun _ w hw => .inr hw.2
      exact hw.2 ▸ .answered (by rw [hw.1]; exact nofun)

theorem preserves_ganeshWaitAccepted {semaphore : Nat} :
    Preserves LaneState.core (ganeshWaitAccepted semaphore) := by
  intro w
  rw [exec_ganeshWaitAccepted]
  cases w.lane.readySemaphore with
  | none => rfl
  | some ready =>
      have hcore : Preserves LaneState.core (do
          failWhen (ready.handle != semaphore) "unexpected imported-image ready semaphore"
          update fun lane => { lane with readySemaphore := none, rendererAccepted := true }
          event (.handOver ready) : Effect LaneState String Unit) :=
        .bind .failWhen fun _ => .bind (fun w => rfl) fun _ => preserves_event rfl
      exact hcore w

theorem preserves_ganeshWaitRejected {semaphore : Nat} :
    Preserves LaneState.core (ganeshWaitRejected semaphore) :=
  .bind preserves_theLane fun _ => .bind .failWhen fun _ _ => rfl

/-! ## Release -/

/-- The commands of a release. -/
def LaneCore.recordRelease (c : LaneCore) (imported : ImportView) (r : RecordResults) :
    Except String (List Command) :=
  if imported.isStaged then recordStagedRelease r c.activeQuery
  else recordDirectRelease c.family r imported.image

/-- The lane has an acquire that it may release. -/
structure LaneCore.Releasable (c : LaneCore) (imported : ImportView) : Prop where
  /-- An acquire was submitted. -/
  acquired : c.acquireSubmitted = true
  /-- No release was submitted. -/
  unreleased : c.releaseSubmitted = false
  /-- The image is the one acquired. -/
  same : c.importId = some imported.importId

/-- What a release comes to. -/
inductive ReleaseOutcome (imported : ImportView) (r : ReleaseResults) (c : LaneCore) :
    LaneCore → Prop
  | refused : ReleaseOutcome imported r c c
  | submitted {commands : List Command} (hready : c.Releasable imported)
      (hrecord : c.recordRelease imported r.record = .ok commands) :
      ReleaseOutcome imported r c
        { c.hear (.submit .release none none commands none) with releaseSubmitted := true }
  | lost {commands : List Command} (hready : c.Releasable imported) :
      ReleaseOutcome imported r c
        ((c.hear (.submit .release none none commands (some .deviceLost))).hear .markDeviceLost)
  | failed {commands : List Command} {e : VkError} (hready : c.Releasable imported)
      (he : e ≠ .deviceLost) :
      ReleaseOutcome imported r c (c.hear (.submit .release none none commands (some e)))

theorem triple_submitRelease {c : LaneCore} {imported : ImportView} {r : ReleaseResults} :
    Triple (fun w => w.core = c) (submitRelease imported r)
      (fun _ w => ReleaseOutcome imported r c w.core)
      fun _ w => ReleaseOutcome imported r c w.core := by
  have hrefused {w : LaneState} (hw : w.core = c) : ReleaseOutcome imported r c w.core :=
    hw ▸ .refused
  refine .bind triple_look fun lane => ?_
  refine .bind (.failWhen fun w hw _ => hrefused hw.2) fun _ => ?_
  refine .bind (.failWhen fun w hw _ => hrefused hw.1.2) fun _ => ?_
  refine .bind (.failWhen fun w hw _ => hrefused hw.1.1.2) fun _ => ?_
  refine Triple.conseq (P := fun w => (c.Releasable imported ∧
    recordRelease lane imported r.record = c.recordRelease imported r.record) ∧ w.core = c)
    ?_ ?_ (fun _ _ hw => hw) fun _ _ hw => hw
  · refine .of_fact fun ⟨hready, hrecord⟩ => ?_
    refine .bind ((Preserves.triple .expect).onError fun _ _ => hrefused) fun _ => ?_
    refine .bind (triple_unheard rfl) fun _ => ?_
    refine .bind ((Preserves.triple .expect).onError fun _ _ => hrefused) fun _ => ?_
    refine .bind (triple_unheard rfl) fun _ => ?_
    refine .bind (.adapt (triple_recordedCommands.onError fun _ _ => hrefused)) fun commands =>
      .of_fact fun hcommands => ?_
    refine .bind (triple_hear rfl) fun _ => ?_
    cases r.submit with
    | none =>
        have hupdate : Triple (fun w => w.core = c.hear (.submit .release none none commands none))
            (update fun lane => { lane with releaseSubmitted := true } :
              Effect LaneState SyncError Unit)
            (fun _ w => w.core =
              { c.hear (.submit .release none none commands none) with releaseSubmitted := true })
            fun _ _ => False := triple_updateCore fun _ hw => hw ▸ rfl
        refine hupdate.conseq (fun _ hw => hw) (fun _ _ hw => ?_) fun _ _ hw => hw.elim
        exact hw ▸ .submitted hready (hrecord ▸ hcommands)
    | some e => cases e with
      | deviceLost => exact .bind (triple_hear rfl) fun _ => .throw fun w hw => hw ▸ .lost hready
      | notReady | outOfHostMemory | outOfDeviceMemory | other name =>
          exact .throw fun w hw => hw ▸ .failed hready nofun
  · rintro w ⟨⟨⟨⟨rfl, rfl⟩, hunreleased⟩, hready⟩, hid⟩
    simp only [Bool.or_eq_false_iff, Bool.not_eq_false'] at hready
    have hsame : w.lane.importId = some imported.importId := by simpa using hid
    exact ⟨⟨⟨hready.1, hunreleased, hsame⟩, rfl⟩, rfl⟩

/-! ## Completion -/

/-- The lane has seen its release fence signalled, and does not read again. -/
def LaneCore.collected (c : LaneCore) : LaneCore :=
  { c with timingCollected := c.timingCollected || c.timingActive }

/-- What the poll of a release comes to. -/
inductive CompleteOutcome (r : CompleteResults) (c : LaneCore) : LaneCore → Prop
  | unasked : CompleteOutcome r c c
  | unsignaled {c' : LaneCore} (hreleased : c.releaseSubmitted = true)
      (hstatus : r.status ≠ .ok true) (hpoll : PollOutcome .release r.status c c') :
      CompleteOutcome r c c'
  | unread (hreleased : c.releaseSubmitted = true) (hstatus : r.status = .ok true) :
      CompleteOutcome r c (c.hear (.fenceStatus .release (.ok true))).collected
  | read {query : TimestampQuery} {values : UInt64 × UInt64 × UInt64}
      (hreleased : c.releaseSubmitted = true) (hstatus : r.status = .ok true)
      (hactive : c.timingActive = true) (huncollected : c.timingCollected = false)
      (hquery : c.timestampQuery = some query) (hvalues : r.values = .ok values) :
      CompleteOutcome r c
        { (c.hear (.fenceStatus .release (.ok true))).collected.hear
            (.queryPoolResults query.pool (.ok values)) with timing := some (query.sample values) }
  | readFailed {query : TimestampQuery} {e : VkError} (hreleased : c.releaseSubmitted = true)
      (hstatus : r.status = .ok true) (hactive : c.timingActive = true)
      (huncollected : c.timingCollected = false) (hquery : c.timestampQuery = some query)
      (hvalues : r.values = .error e) (he : e ≠ .deviceLost) :
      CompleteOutcome r c ((c.hear (.fenceStatus .release (.ok true))).collected.hear
        (.queryPoolResults query.pool (.error e)))
  | readLost {query : TimestampQuery} (hreleased : c.releaseSubmitted = true)
      (hstatus : r.status = .ok true) (hactive : c.timingActive = true)
      (huncollected : c.timingCollected = false) (hquery : c.timestampQuery = some query)
      (hvalues : r.values = .error .deviceLost) :
      CompleteOutcome r c (((c.hear (.fenceStatus .release (.ok true))).collected.hear
        (.queryPoolResults query.pool (.error .deviceLost))).hear .markDeviceLost)

theorem triple_collectTiming {c : LaneCore} {r : CompleteResults}
    (hreleased : c.releaseSubmitted = true) (hstatus : r.status = .ok true) :
    Triple (fun w => w.core = c.hear (.fenceStatus .release (.ok true))) (collectTiming r.values)
      (fun _ w => CompleteOutcome r c w.core) fun _ w => CompleteOutcome r c w.core := by
  have hunread {w : LaneState}
    (hw : w.core = (c.hear (.fenceStatus .release (.ok true))).collected) :
      CompleteOutcome r c w.core := hw ▸ .unread hreleased hstatus
  refine .bind triple_look fun lane => ?_
  refine Triple.conseq (P := fun w => (lane.timingActive = c.timingActive ∧
    lane.timingCollected = c.timingCollected ∧ lane.timestampQuery = c.timestampQuery) ∧
      w.core = c.hear (.fenceStatus .release (.ok true))) ?_ ?_ (fun _ _ hw => hw) fun _ _ hw => hw
  · refine .of_fact fun ⟨hactive, hcollected, hquery⟩ => ?_
    rw [hactive, hcollected, hquery]
    cases hactive : c.timingActive with
    | false =>
        refine .pure fun w hw => hunread (hw.trans ?_)
        simp [LaneCore.collected, LaneCore.hear, hactive]
    | true =>
    have hupdate {w : LaneState} (hw : w.core = c.hear (.fenceStatus .release (.ok true))) :
        (w.set fun lane => { lane with timingCollected := true }).core =
          (c.hear (.fenceStatus .release (.ok true))).collected := by
      have hset : (w.set fun lane => { lane with timingCollected := true }).core =
        { w.core with timingCollected := true } := rfl
      rw [hset, hw]
      simp [LaneCore.collected, LaneCore.hear, hactive]
    refine .bind (triple_updateCore fun _ => hupdate) fun _ => ?_
    cases hcollected : c.timingCollected with
    | true => exact .pure fun w hw => hunread hw
    | false =>
    cases hquery : c.timestampQuery with
    | none => exact .pure fun w hw => hunread hw
    | some query =>
    refine .bind (triple_hear rfl) fun _ => ?_
    cases hvalues : r.values with
    | ok values =>
        have hset : Triple
          (fun w => w.core = (c.hear (.fenceStatus .release (.ok true))).collected.hear
              (.queryPoolResults query.pool (.ok values)))
            (update fun lane => { lane with timing := some (query.sample values) } :
              Effect LaneState SyncError Unit)
            (fun _ w => w.core = { (c.hear (.fenceStatus .release (.ok true))).collected.hear
              (.queryPoolResults query.pool (.ok values)) with
              timing := some (query.sample values) })
            fun _ w => CompleteOutcome r c w.core := triple_updateCore fun _ hw => hw ▸ rfl
        exact hset.onOk fun _ w hw =>
          hw ▸ .read hreleased hstatus hactive hcollected hquery hvalues
    | error e => cases e with
      | deviceLost =>
          refine .bind (triple_hear rfl) fun _ => .throw fun w hw => ?_
          exact hw ▸ .readLost hreleased hstatus hactive hcollected hquery hvalues
      | notReady | outOfHostMemory | outOfDeviceMemory =>
          refine (triple_unheard rfl).onOk fun _ w hw => ?_
          exact hw ▸ .readFailed hreleased hstatus hactive hcollected hquery hvalues nofun
      | other name =>
          refine .throw fun w hw => ?_
          exact hw ▸ .readFailed hreleased hstatus hactive hcollected hquery hvalues nofun
  · rintro w ⟨rfl, hw⟩
    exact ⟨⟨congrArg LaneCore.timingActive hw, congrArg LaneCore.timingCollected hw,
      congrArg LaneCore.timestampQuery hw⟩, hw⟩

theorem triple_releaseComplete {c : LaneCore} {r : CompleteResults} :
    Triple (fun w => w.core = c) (releaseComplete r)
      (fun _ w => CompleteOutcome r c w.core) fun _ w => CompleteOutcome r c w.core := by
  refine .bind triple_look fun lane => ?_
  refine Triple.conseq (P := fun w => lane.releaseSubmitted = c.releaseSubmitted ∧ w.core = c)
    (.of_fact fun hreleased => ?_) ?_ (fun _ _ hw => hw) fun _ _ hw => hw
  · rw [hreleased]
    cases hreleased : c.releaseSubmitted with
    | false => exact .pure fun w hw => hw ▸ .unasked
    | true =>
    refine .bind (triple_pollFence.onError fun _ w hw =>
      .unsignaled hreleased (hw.1 true) hw.2) fun signaled => .of_fact fun hstatus => ?_
    cases signaled with
    | true =>
        rw [hstatus]
        exact .bind (triple_collectTiming hreleased hstatus) fun _ => .pure fun w hw => hw
    | false =>
        refine .pure fun w hw => hw ▸ .unsignaled hreleased ?_ (.answered ?_)
        · simp [hstatus]
        · simp [hstatus]
  · rintro w ⟨rfl, hw⟩
    exact ⟨congrArg LaneCore.releaseSubmitted hw, hw⟩

/-! ## Reuse and drop -/

/-- The lane as it was before its acquire. -/
def LaneCore.cleared (c : LaneCore) : LaneCore :=
  { c with
    importId := none
    stagedImport := false
    acquireSubmitted := false
    releaseSubmitted := false
    timingActive := false
    timingCollected := false
    timing := none }

/-- What a reset comes to.  A lost device is heard of, and not marked. -/
inductive ResetOutcome (status : Except VkError Bool) (c : LaneCore) : LaneCore → Prop
  | refused (hunreleased : c.releaseSubmitted = false) : ResetOutcome status c c
  | polled (hreleased : c.releaseSubmitted = true) :
      ResetOutcome status c (c.hear (.fenceStatus .release status))
  | cleared (hreleased : c.releaseSubmitted = true) (hstatus : status = .ok true) :
      ResetOutcome status c (c.hear (.fenceStatus .release status)).cleared

theorem preserves_destroyRejected : Preserves LaneState.core destroyRejected := by
  intro w
  rw [exec_destroyRejected]
  cases w.lane.rendererRejected with
  | false => rfl
  | true => cases w.lane.readySemaphore with
    | none => rfl
    | some s =>
      have hcore : Preserves LaneState.core (do
          update fun lane => { lane with readySemaphore := none }
          event (.destroySemaphore s) : Effect LaneState String Unit) :=
        .bind (fun w => rfl) fun _ => preserves_event rfl
      exact hcore w

/-- A reset clears the lane if and only if it succeeds. -/
theorem triple_resetForReuse_core {c : LaneCore} {status : Except VkError Bool} :
    Triple (fun w => w.core = c) (resetForReuse status)
      (fun _ w => c.releaseSubmitted = true ∧ status = .ok true ∧
        w.core = (c.hear (.fenceStatus .release status)).cleared)
      fun _ w => c.releaseSubmitted = false ∧ w.core = c ∨
        c.releaseSubmitted = true ∧ w.core = c.hear (.fenceStatus .release status) := by
  refine .bind triple_look fun lane => ?_
  refine Triple.conseq (P := fun w => lane.releaseSubmitted = c.releaseSubmitted ∧ w.core = c)
    (.of_fact fun hreleased => ?_) ?_ (fun _ _ hw => hw) fun _ _ hw => hw
  · rw [hreleased]
    refine .bind (.failWhen fun w hw hc => .inl ⟨by simpa using hc, hw⟩) fun _ => ?_
    refine Triple.conseq (P := fun w => c.releaseSubmitted = true ∧ w.core = c)
      (.of_fact fun hreleased => ?_) (fun w hw => ⟨by simpa using hw.2, hw.1⟩)
      (fun _ _ hw => hw) fun _ _ hw => hw
    refine .bind (triple_hear rfl) fun _ => ?_
    cases status with
    | error e => exact .throw fun w hw => .inr ⟨hreleased, hw⟩
    | ok complete =>
    refine .bind (.failWhen fun w hw _ => .inr ⟨hreleased, hw⟩) fun _ => ?_
    refine Triple.conseq (P := fun w => complete = true ∧
      w.core = c.hear (.fenceStatus .release (.ok complete))) (.of_fact fun hcomplete => ?_)
      (fun w hw => ⟨by simpa using hw.2, hw.1⟩) (fun _ _ hw => hw) fun _ _ hw => hw
    refine .bind (preserves_destroyRejected.triple.onError fun _ _ hw => .inr ⟨hreleased, hw⟩)
      fun _ => ?_
    refine .bind (preserves_theLane.triple.onError fun _ _ hw => .inr ⟨hreleased, hw⟩)
      fun lane => ?_
    refine .bind (.failWhen fun w hw _ => .inr ⟨hreleased, hw⟩) fun _ => ?_
    rintro w ⟨hw, -⟩
    have hcleared : (w.set ImportedImageSync.cleared).core = w.core.cleared := rfl
    exact ⟨hreleased, congrArg _ hcomplete, hcleared.trans (congrArg _ hw)⟩
  · rintro w ⟨rfl, hw⟩
    exact ⟨congrArg LaneCore.releaseSubmitted hw, hw⟩

theorem triple_resetForReuse_outcome {c : LaneCore} {status : Except VkError Bool} :
    Triple (fun w => w.core = c) (resetForReuse status)
      (fun _ w => ResetOutcome status c w.core) fun _ w => ResetOutcome status c w.core := by
  refine triple_resetForReuse_core.conseq (fun _ hw => hw) ?_ ?_
  · rintro _ w ⟨hreleased, hstatus, hw⟩
    exact hw ▸ .cleared hreleased hstatus
  · rintro _ w (⟨hunreleased, hw⟩ | ⟨hreleased, hw⟩)
    · rw [hw]
      exact .refused hunreleased
    · rw [hw]
      exact .polled hreleased

/-- What a drop comes to. -/
inductive DropOutcome (status : Except VkError Bool) (c : LaneCore) : LaneCore → Prop
  | idle : DropOutcome status c { c with timestampQuery := none }
  | finished (hstatus : status = .ok true) :
      DropOutcome status c { c.hear (.fenceStatus .release status) with timestampQuery := none }
  | unreleased : DropOutcome status c (c.hear .markDeviceLost)
  | unfinished : DropOutcome status c ((c.hear (.fenceStatus .release status)).hear .markDeviceLost)

theorem core_destroyChildren (w : LaneState) :
    (destroyChildren.exec w).2.core = { w.core with timestampQuery := none } := by
  obtain ⟨lane, events⟩ := w
  obtain ⟨family, imported, ready, id, staged, acquire, accepted, rejected, release, query, active,
    collected, timing, n⟩ := lane
  cases imported <;> cases ready <;> cases query <;> rfl

theorem triple_destroyChildren {c : LaneCore} :
    Triple (fun w => w.core = c) destroyChildren
      (fun _ w => w.core = { c with timestampQuery := none }) fun _ _ => False := by
  rintro w rfl
  have hcore := core_destroyChildren w
  match destroyChildren.exec w, hcore with
  | (.ok _, w'), hcore => exact hcore

theorem triple_safeToDestroy {c : LaneCore} {status : Except VkError Bool} :
    Triple (fun w => w.core = c) (safeToDestroy status)
      (fun safe w => (safe = true → w.core = c ∨
          status = .ok true ∧ w.core = c.hear (.fenceStatus .release status)) ∧
        (safe = false → w.core = c ∨ w.core = c.hear (.fenceStatus .release status)))
      fun _ _ => False := by
  refine .bind triple_look fun lane => ?_
  refine Triple.conseq (P := fun w => w.core = c) ?_ (fun _ hw => hw.2) (fun _ _ hw => hw)
    fun _ _ hw => hw
  cases lane.acquireSubmitted with
  | false => exact .pure fun w hw => ⟨fun _ => .inl hw, nofun⟩
  | true => cases lane.releaseSubmitted with
    | false => exact .pure fun w hw => ⟨nofun, fun _ => .inl hw⟩
    | true =>
        refine .bind (triple_hear rfl) fun _ => ?_
        cases status with
        | error e => exact .pure fun w hw => ⟨nofun, fun _ => .inr hw⟩
        | ok signaled => exact .pure fun w hw =>
          ⟨fun hs => .inr ⟨congrArg _ hs, hw⟩, fun _ => .inr hw⟩

theorem triple_drop {c : LaneCore} {status : Except VkError Bool} :
    Triple (fun w => w.core = c) (drop status) (fun _ w => DropOutcome status c w.core)
      fun _ _ => False := by
  refine .bind triple_safeToDestroy fun safe => ?_
  cases safe with
  | true =>
      rintro w ⟨hsafe, -⟩
      rcases hsafe rfl with hw | ⟨hstatus, hw⟩
      · exact (triple_destroyChildren.onOk fun _ _ hw' => hw' ▸ .idle) w hw
      · exact (triple_destroyChildren.onOk fun _ _ hw' => hw' ▸ .finished hstatus) w hw
  | false =>
      rintro w ⟨-, hsafe⟩
      rcases hsafe rfl with hw | hw
      · exact ((triple_hear rfl).onOk fun _ _ hw' => hw' ▸ .unreleased) w hw
      · exact ((triple_hear rfl).onOk fun _ _ hw' => hw' ▸ .unfinished) w hw

/-! ## Calls -/

/-- What a call comes to. -/
def LaneCall.Outcome (call : LaneCall) (c c' : LaneCore) : Prop :=
  match call with
  | submitAcquire imported _ r => AcquireOutcome imported r c c'
  | sourceReleaseComplete status => c' = c ∨ PollOutcome .acquire status c c'
  | ganeshWaitAccepted _ | ganeshWaitRejected _ => c' = c
  | submitRelease imported r => ReleaseOutcome imported r c c'
  | releaseComplete r => CompleteOutcome r c c'
  | takeTiming => c' = { c with timing := none }
  | resetForReuse status => ResetOutcome status c c'

/-- What holds of a result, holds of the state. -/
theorem post_state {ε α : Type} {P : LaneState → Prop} {x : Effect LaneState ε α}
    {Q : LaneCore → Prop} {w : LaneState} (h : Triple P x (fun _ w => Q w.core) fun _ w => Q w.core)
    (hw : P w) : Q (x.exec w).2.core := by
  have hpost := h w hw
  match x.exec w, hpost with
  | (.ok _, _), hpost => exact hpost
  | (.error _, _), hpost => exact hpost

/-- **A call does one of the things listed for it.** -/
theorem LaneCall.outcome (call : LaneCall) (w : LaneState) :
    call.Outcome w.core (call.perform w).core := by
  cases call with
  | submitAcquire imported fd r => exact post_state triple_submitAcquire rfl
  | sourceReleaseComplete status => exact post_state triple_sourceReleaseComplete rfl
  | ganeshWaitAccepted semaphore => exact preserves_ganeshWaitAccepted w
  | ganeshWaitRejected semaphore => exact preserves_ganeshWaitRejected w
  | submitRelease imported r => exact post_state triple_submitRelease rfl
  | releaseComplete r => exact post_state triple_releaseComplete rfl
  | takeTiming => rfl
  | resetForReuse status => exact post_state triple_resetForReuse_outcome rfl

theorem drop_outcome (status : Except VkError Bool) (w : LaneState) :
    DropOutcome status w.core ((drop status).exec w).2.core :=
  post_state (triple_drop.onError fun _ _ hw => hw.elim) rfl

end VideoInterop.Vulkan
