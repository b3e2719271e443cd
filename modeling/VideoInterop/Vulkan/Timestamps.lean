import VideoInterop.Vulkan.DeviceLoss
import VideoInterop.Vulkan.Imported

/-!
# Timestamp brackets

A bracket begins with an acquire that is submitted and ends with the reset that makes
the lane free again.  A lane that times a bracket has its acquire reset the three
queries and write two of them, has its release write the third, and reads them once the
release fence is signalled.

What a bracket is, is told from the calls of a lane and their events alone: `Bracket`.
The lane remembers the choice to time in a flag that is set while recording, when the
submission can still fail.  `Tracks` says what its flags mean for the bracket it is in,
and every call keeps it.
-/

namespace VideoInterop.Vulkan

open VideoInterop (Effect Legal)
open VideoInterop.Effect

/-! ## Brackets -/

/-- A submitted acquire, and what has been heard since. -/
structure Bracket where
  /-- The image. -/
  imported : ImportView
  /-- Was the bracket to be timed? -/
  sampled : Bool
  /-- What the acquire recorded. -/
  acquire : List Command
  /-- What the release recorded, once it was submitted. -/
  release : Option (List Command)
  /-- Was the fence of the release seen signalled? -/
  fenced : Bool
  /-- The reads of the timestamps, latest first. -/
  reads : List (Nat × Except VkError (UInt64 × UInt64 × UInt64))

/-- The image that a call acquires, and the choice to time it. -/
def LaneCall.acquires : LaneCall → Option (ImportView × Bool)
  | submitAcquire imported _ r => some (imported, r.sampled)
  | _ => none

/-- The bracket after an event of a call. -/
def Bracket.next (acquires : Option (ImportView × Bool)) (e : LaneEvent) (b : Option Bracket) :
    Option Bracket :=
  match e with
  | .submit .acquire _ _ commands none =>
      acquires.map fun (imported, sampled) => ⟨imported, sampled, commands, none, false, []⟩
  | .submit .release _ _ commands none => b.map fun b => { b with release := some commands }
  | .fenceStatus .release (.ok true) => b.map fun b => { b with fenced := b.release.isSome }
  | .queryPoolResults pool values => b.map fun b => { b with reads := (pool, values) :: b.reads }
  | _ => b

/-- The bracket after some events of a call, latest first. -/
def Bracket.after (acquires : Option (ImportView × Bool)) (b : Option Bracket)
    (events : List LaneEvent) : Option Bracket := events.foldr (Bracket.next acquires) b

/-- Reading the pool is right: the bracket is timed, all three timestamps of it have been
written, and it has not been read. -/
structure Bracket.MayRead (b : Bracket) (pool : Nat) : Prop where
  /-- The image is staged. -/
  staged : b.imported.isStaged = true
  /-- The bracket is to be timed. -/
  sampled : b.sampled = true
  /-- The acquire resets the pool and writes the first two timestamps. -/
  acquire : ∃ commands, b.acquire = [.resetQueryPool pool 0 3, .writeTimestamp .topOfPipe pool 0] ++
    commands ++ [.writeTimestamp .bottomOfPipe pool 1]
  /-- The release writes the third. -/
  release : ∃ commands, b.release = some commands ∧
    .writeTimestamp .bottomOfPipe pool 2 ∈ commands
  /-- It is done. -/
  fenced : b.fenced = true
  /-- They were not read before. -/
  unread : b.reads = []

/-- An event of a call is right after the events before it, if it is no read or the
bracket may be read. -/
def TimedRead (acquires : Option (ImportView × Bool)) (b : Option Bracket)
    (past : List LaneEvent) (e : LaneEvent) : Prop :=
  ∀ pool values, e = .queryPoolResults pool values →
    ∃ b', Bracket.after acquires b past = some b' ∧ b'.MayRead pool

/-! ## Runs -/

/-- A lane and the bracket it is in. -/
structure TimedLane where
  /-- The lane. -/
  lane : ImportedImageSync
  /-- The bracket that is open. -/
  bracket : Option Bracket

/-- A new lane, without a bracket. -/
def TimedLane.new (family : QueueFamily) (query : Option TimestampQuery) : TimedLane :=
  ⟨(LaneState.new family query).lane, none⟩

/-- A reset that succeeds. -/
def LaneCall.ends (call : LaneCall) (lane : ImportedImageSync) : Bool :=
  match call with
  | resetForReuse status => ((Vulkan.resetForReuse status).exec ⟨lane, []⟩).1.toBool
  | _ => false

/-- The events of a call. -/
def LaneCall.events (call : LaneCall) (lane : ImportedImageSync) : List LaneEvent :=
  ((LaneOp.call call).run lane).events

/-- A lane and its bracket after a call. -/
def TimedLane.step (s : TimedLane) (call : LaneCall) : TimedLane where
  lane := ((LaneOp.call call).run s.lane).lane
  bracket := if call.ends s.lane then none
    else Bracket.after call.acquires s.bracket (call.events s.lane)

/-- After one call after the other. -/
def TimedLane.run (s : TimedLane) (calls : List LaneCall) : TimedLane :=
  calls.foldl TimedLane.step s

/-- No call hears of a lost device. -/
def TimedLane.Lossless (s : TimedLane) : List LaneCall → Prop
  | [] => True
  | call :: calls => (∀ e ∈ call.events s.lane, e.isLoss = false) ∧ (s.step call).Lossless calls

/-! ## Images -/

/-- What an image answers to a lane.  Its slot may have been filled before. -/
structure ImportedDmaBufImage.Shows (imported : ImportedDmaBufImage) (view : ImportView) :
    Prop where
  /-- Its number. -/
  importId : view.importId = ⟨imported.id⟩
  /-- Whether it is staged. -/
  isStaged : view.isStaged = imported.isStaged
  /-- The image. -/
  image : imported.image = .ok view.image
  /-- The plan of an acquire. -/
  acquirePlan : ∃ initialized, imported.acquirePlan initialized = .ok view.acquirePlan

/-- The images that have an id, one for each. -/
abbrev ImageTable := ImportId → Option ImportedDmaBufImage

/-- The view that a call is given is that of an image. -/
def LaneCall.Shown (images : ImageTable) : LaneCall → Prop
  | submitAcquire view _ _ | submitRelease view _ =>
      ∃ imported, images view.importId = some imported ∧ imported.Shows view
  | _ => True

/-- The plan of an image is direct unless the image is staged. -/
theorem isDirectImage_acquirePlan {imported : ImportedDmaBufImage} {initialized : Bool}
    {plan : AcquirePlan} (h : imported.acquirePlan initialized = .ok plan) :
    plan.isDirectImage = !imported.isStaged := by
  obtain ⟨id, kind, dimensions, modifier⟩ := imported
  have hdirect {source : Except String ImageAllocation}
      (h : (source.map fun sampled => AcquirePlan.directImage sampled.image) = .ok plan) :
      plan.isDirectImage = true := by
    cases source with
    | error e => cases h
    | ok sampled =>
        cases h
        rfl
  cases kind with
  | directPacked source => exact hdirect h
  | directBgraScanout sampled =>
      cases h
      rfl
  | directNv12 source => exact hdirect h
  | stagedPacked staged =>
      obtain ⟨⟨⟨sourceId, allocation⟩, lease⟩, output, pipeline, constants⟩ := staged
      cases allocation with
      | direct sampled => cases h
      | staged view source =>
          cases h
          rfl
  | stagedNv12 staged =>
      obtain ⟨⟨⟨sourceId, allocation⟩, lease⟩, ⟨⟨slotId, spec, device, set, resources⟩, use⟩,
        operation⟩ :=
        staged
      cases operation with
      | compute pipeline constants =>
          cases allocation with
          | direct sampled => cases h
          | compute view source | transfer source => cases set with
            | none => cases h
            | some set =>
                cases h
                rfl
      | bufferTransfer layout =>
          cases allocation with
          | direct sampled => cases h
          | compute view source | transfer source =>
              cases h
              rfl
      | imageTransfer =>
          cases allocation with
          | direct sampled =>
              cases h
              rfl
          | compute view source | transfer source => cases h

/-! ## Timestamps of recordings -/

/-- An acquire that writes timestamps writes them around all else. -/
theorem recordPlan_timed {family : QueueFamily} {r : RecordResults} {plan : AcquirePlan}
    {pool : Nat} {commands : List Command} (hstaged : plan.isDirectImage = false)
    (h : recordPlan family r plan (some pool) = .ok commands) :
    ∃ between, commands = [.resetQueryPool pool 0 3, .writeTimestamp .topOfPipe pool 0] ++
      between ++ [.writeTimestamp .bottomOfPipe pool 1] := by
  cases plan with
  | directImage image => cases hstaged
  | stagedCompute plan =>
      obtain ⟨-, -, rfl⟩ := record_ok.mp h
      exact ⟨_, rfl⟩
  | stagedTransfer plan =>
      obtain ⟨copies, -, h⟩ := bind_ok.mp h
      obtain ⟨-, -, rfl⟩ := record_ok.mp h
      exact ⟨_ :: (copies ++ [_, _]), rfl⟩
  | stagedImageTransfer plan =>
      obtain ⟨⟨luma, chroma⟩, -, h⟩ := bind_ok.mp h
      obtain ⟨-, -, rfl⟩ := record_ok.mp h
      exact ⟨_, rfl⟩

theorem recordStagedRelease_timed {r : RecordResults} {pool : Nat} {commands : List Command}
    (h : recordStagedRelease r (some pool) = .ok commands) :
    .writeTimestamp .bottomOfPipe pool 2 ∈ commands := by
  obtain ⟨-, -, rfl⟩ := record_ok.mp h
  exact List.mem_cons_self

/-! ## The flags of a lane and its bracket -/

section
variable {images : ImageTable} {query : Option TimestampQuery} {c c' : LaneCore} {b : Bracket}
  {bracket : Option Bracket} {acquires : Option (ImportView × Bool)} {e : LaneEvent}

/-- What the fields of a lane mean for the bracket it is in. -/
structure Bracket.Tracked (images : ImageTable) (query : Option TimestampQuery) (b : Bracket)
    (c : LaneCore) : Prop where
  /-- The lane has the bracket's import. -/
  importId : c.importId = some b.imported.importId
  /-- The import is an image of the table. -/
  shown : ∃ imported, images b.imported.importId = some imported ∧ imported.Shows b.imported
  /-- A release was submitted when the bracket has one. -/
  released : c.releaseSubmitted = b.release.isSome
  /-- Timestamps are taken of a staged image that is to be timed. -/
  active : c.timingActive = (b.imported.isStaged && query.isSome && b.sampled)
  /-- With timestamps, the acquire writes the first two. -/
  acquire : ∀ q, query = some q → c.timingActive = true →
    ∃ commands, b.acquire = [.resetQueryPool q.pool 0 3, .writeTimestamp .topOfPipe q.pool 0] ++
      commands ++ [.writeTimestamp .bottomOfPipe q.pool 1]
  /-- With timestamps, the release writes the third. -/
  release : ∀ q commands, query = some q → c.timingActive = true → b.release = some commands →
    .writeTimestamp .bottomOfPipe q.pool 2 ∈ commands
  /-- They were not read unless the lane says so. -/
  unread : c.timingCollected = false → b.reads = []
  /-- A sample is of this bracket. -/
  timing : ∀ t, c.timing = some t →
    ∃ q values, query = some q ∧ b.reads = [(q.pool, .ok values)] ∧ t = q.sample values

/-- Between brackets a lane has nothing to release and no sample.  It may be left with the
choice to time an acquire that was not submitted. -/
inductive Tracks (images : ImageTable) (query : Option TimestampQuery) (c : LaneCore) :
    Option Bracket → Prop
  | idle (hquery : c.timestampQuery = query) (hacquired : c.acquireSubmitted = false)
      (hreleased : c.releaseSubmitted = false) (htiming : c.timing = none) :
      Tracks images query c none
  | within {b : Bracket} (hquery : c.timestampQuery = query) (hacquired : c.acquireSubmitted = true)
      (h : b.Tracked images query c) : Tracks images query c (some b)

theorem Tracks.query_eq (h : Tracks images query c bracket) : c.timestampQuery = query := by
  cases h with
  | idle hquery => exact hquery
  | within hquery => exact hquery

/-- Whether an event opens a bracket or adds to it more than a mark. -/
def LaneEvent.isEntry : LaneEvent → Bool
  | submit _ _ _ _ none | queryPoolResults _ _ => true
  | _ => false

theorem Bracket.Tracked.fence (h : b.Tracked images query c) :
    ({ b with fenced := b.release.isSome } : Bracket).Tracked images query c :=
  ⟨h.importId, h.shown, h.released, h.active, h.acquire, h.release, h.unread, h.timing⟩

/-- What a lane has heard is not in its fields. -/
theorem Bracket.Tracked.rehear (h : b.Tracked images query c) (heard : List LaneEvent) :
    b.Tracked images query { c with heard := heard } :=
  ⟨h.importId, h.shown, h.released, h.active, h.acquire, h.release, h.unread, h.timing⟩

theorem Tracks.rehear (h : Tracks images query c bracket) (heard : List LaneEvent) :
    Tracks images query { c with heard := heard } bracket := by
  cases h with
  | idle hquery hacquired hreleased htiming => exact .idle hquery hacquired hreleased htiming
  | within hquery hacquired h => exact .within hquery hacquired (h.rehear heard)

theorem Tracks.hear (h : Tracks images query c bracket) (acquires : Option (ImportView × Bool))
    (he : e.isEntry = false) :
    Tracks images query (c.hear e) (Bracket.next acquires e bracket) := by
  have hsame : Tracks images query (c.hear e) bracket := h.rehear _
  cases e with
  | submit side wait signal commands failure =>
      cases failure with
      | none => cases he
      | some failure => cases side <;> exact hsame
  | queryPoolResults pool values => cases he
  | fenceStatus side status =>
      cases side with
      | acquire => exact hsame
      | release => cases status with
        | error e => exact hsame
        | ok signaled => cases signaled with
          | false => exact hsame
          | true => cases hsame with
            | idle hquery hacquired hreleased htiming =>
                exact .idle hquery hacquired hreleased htiming
            | within hquery hacquired hb => exact .within hquery hacquired hb.fence
  | _ => exact hsame

theorem after_cons {events : List LaneEvent} :
    Bracket.after acquires bracket (e :: events) =
      Bracket.next acquires e (Bracket.after acquires bracket events) := rfl

/-! ## Calls keep track -/

theorem AcquireOutcome.tracks {view : ImportView} {r : AcquireResults}
    (h : AcquireOutcome view r c c') (hc : c.heard = []) (ht : Tracks images query c bracket)
    (hshown : ∃ imported, images view.importId = some imported ∧ imported.Shows view)
    (hloss : ∀ e ∈ c'.heard, e.isLoss = false) :
    Tracks images query c' (Bracket.after (some (view, r.sampled)) bracket c'.heard) := by
  have hchosen (hidle : c.Idle) : bracket = none ∧
      Tracks images query (c.chosen view.acquirePlan r) none ∧ c.timing = none := by
    cases ht with
    | idle hquery hacquired hreleased htiming =>
        exact ⟨rfl, .idle hquery hacquired hreleased htiming, htiming⟩
    | within _ hacquired =>
        rw [hidle.1] at hacquired
        cases hacquired
  cases h with
  | refused => exact hc.symm ▸ ht
  | unsubmitted hidle =>
      obtain ⟨rfl, hchosen, -⟩ := hchosen hidle
      exact chosen_heard.trans hc ▸ hchosen
  | @submitted wait ready commands hidle hrecord =>
      obtain ⟨rfl, hchosen, htiming⟩ := hchosen hidle
      obtain ⟨imported, himported, hview⟩ := hshown
      obtain ⟨initialized, hplan⟩ := hview.acquirePlan
      have hdirect : view.acquirePlan.isDirectImage = !view.isStaged := by
        rw [isDirectImage_acquirePlan hplan, hview.isStaged]
      have hquery : c.timestampQuery = query := by cases hchosen; assumption
      rw [acquired_heard, hear_heard, chosen_heard, hc]
      refine .within hquery rfl ⟨rfl, ⟨imported, himported, hview⟩, hidle.2, ?_, ?_, nofun,
        fun _ => rfl, ?_⟩
      · show (!view.acquirePlan.isDirectImage && c.timestampQuery.isSome && r.sampled) = _
        rw [hdirect, hquery, Bool.not_not]
      · intro q hq hactive
        have htimed : c.timed view.acquirePlan r = true := hactive
        have hstaged : view.acquirePlan.isDirectImage = false := by
          simp only [LaneCore.timed, Bool.and_eq_true, Bool.not_eq_true'] at htimed
          exact htimed.1.1
        have hactiveQuery : (c.chosen view.acquirePlan r).activeQuery = some q.pool := by
          simp [LaneCore.activeQuery, LaneCore.chosen, htimed, hquery, hq]
        rw [hactiveQuery] at hrecord
        exact recordPlan_timed hstaged hrecord
      · intro t ht
        have hnone : some t = none := ht.symm.trans htiming
        cases hnone
  | lost => cases hloss _ (List.mem_cons_of_mem _ List.mem_cons_self)
  | failed hidle he =>
      obtain ⟨rfl, hchosen, -⟩ := hchosen hidle
      rw [hear_heard, chosen_heard, hc]
      exact hchosen.hear (some (view, r.sampled)) rfl

theorem PollOutcome.tracks {side : Side} {status : Except VkError Bool}
    (h : PollOutcome side status c c') (hc : c.heard = []) (ht : Tracks images query c bracket) :
    Tracks images query c' (Bracket.after acquires bracket c'.heard) := by
  cases h with
  | answered =>
      rw [hear_heard, hc]
      exact ht.hear acquires rfl
  | lost =>
      rw [hear_heard, hear_heard, hc]
      exact (ht.hear acquires rfl).hear acquires rfl

theorem ReleaseOutcome.tracks {view : ImportView} {r : ReleaseResults}
    (h : ReleaseOutcome view r c c') (hc : c.heard = []) (ht : Tracks images query c bracket)
    (hshown : ∃ imported, images view.importId = some imported ∧ imported.Shows view) :
    Tracks images query c' (Bracket.after acquires bracket c'.heard) := by
  cases h with
  | refused => exact hc.symm ▸ ht
  | @submitted commands hready hrecord =>
      show Tracks images query _ (Bracket.after acquires bracket (c.hear _).heard)
      rw [hear_heard, hc]
      cases ht with
      | idle _ hacquired =>
          have hready := hready.acquired
          rw [hacquired] at hready
          cases hready
      | @within b hquery hacquired hb =>
          refine .within hquery hacquired ⟨hb.importId, hb.shown, rfl, hb.active, hb.acquire, ?_,
            hb.unread, hb.timing⟩
          rintro q commands' hq hactive hcommands
          cases hcommands
          -- The release is of the image that was acquired, so it is staged as that was.
          obtain ⟨imported, himported, hview⟩ := hshown
          obtain ⟨imported', himported', hview'⟩ := hb.shown
          have hid : view.importId = b.imported.importId :=
            Option.some.inj (hready.same.symm.trans hb.importId)
          obtain rfl : imported = imported' :=
            Option.some.inj (himported.symm.trans (hid ▸ himported'))
          have hactive : c.timingActive = true := hactive
          have hstaged : view.isStaged = true := by
            rw [hb.active] at hactive
            simp only [Bool.and_eq_true] at hactive
            rw [hview.isStaged, ← hview'.isStaged, hactive.1.1]
          have hactiveQuery : c.activeQuery = some q.pool := by
            simp [LaneCore.activeQuery, hactive, hquery, hq]
          simp only [LaneCore.recordRelease, hstaged, if_true, hactiveQuery] at hrecord
          exact recordStagedRelease_timed hrecord
  | lost =>
      rw [hear_heard, hear_heard, hc]
      exact (ht.hear acquires rfl).hear acquires rfl
  | failed =>
      rw [hear_heard, hc]
      exact ht.hear acquires rfl

/-- A sample that is taken is gone. -/
theorem Tracks.taken (h : Tracks images query c bracket) :
    Tracks images query { c with timing := none } bracket := by
  cases h with
  | idle hquery hacquired hreleased => exact .idle hquery hacquired hreleased rfl
  | within hquery hacquired h =>
      exact .within hquery hacquired ⟨h.importId, h.shown, h.released, h.active, h.acquire,
        h.release, h.unread, nofun⟩

/-- A lane that reads no further is in the same bracket. -/
theorem Tracks.collected (h : Tracks images query c bracket) :
    Tracks images query c.collected bracket := by
  cases h with
  | idle hquery hacquired hreleased htiming => exact .idle hquery hacquired hreleased htiming
  | within hquery hacquired h =>
      refine .within hquery hacquired ⟨h.importId, h.shown, h.released, h.active, h.acquire,
        h.release, fun huncollected => h.unread ?_, h.timing⟩
      exact (Bool.or_eq_false_iff.mp huncollected).1

/-- A lane that reads for the first time after its release is in a bracket that may be
read. -/
theorem Tracks.mayRead {q : TimestampQuery} (h : Tracks images query c bracket)
    (hreleased : c.releaseSubmitted = true) (hactive : c.timingActive = true)
    (huncollected : c.timingCollected = false) (hquery : c.timestampQuery = some q) :
    ∃ b, bracket = some b ∧ b.Tracked images query c ∧ query = some q ∧
      ({ b with fenced := b.release.isSome } : Bracket).MayRead q.pool := by
  cases h with
  | idle _ _ hunreleased =>
      rw [hunreleased] at hreleased
      cases hreleased
  | @within b hquery' hacquired hb =>
      have hq : query = some q := hquery'.symm.trans hquery
      refine ⟨b, rfl, hb, hq, ?_⟩
      have htimed := hb.active ▸ hactive
      simp only [Bool.and_eq_true] at htimed
      have hsome : b.release.isSome = true := hb.released ▸ hreleased
      obtain ⟨commands, hcommands⟩ := Option.isSome_iff_exists.mp hsome
      exact ⟨htimed.1.1, htimed.2, hb.acquire q hq hactive,
        ⟨commands, hcommands, hb.release q commands hq hactive hcommands⟩, hsome,
        hb.unread huncollected⟩

/-- A read of the pool, and the sample that is left after it. -/
theorem Tracks.read {q : TimestampQuery} {values : Except VkError (UInt64 × UInt64 × UInt64)}
    {timing : Option VideoTiming} (h : Tracks images query c bracket)
    (hreleased : c.releaseSubmitted = true) (hactive : c.timingActive = true)
    (huncollected : c.timingCollected = false) (hquery : c.timestampQuery = some q)
    (htiming : ∀ t, timing = some t → ∃ v, values = .ok v ∧ t = q.sample v) :
    Tracks images query
      { (c.hear (.fenceStatus .release (.ok true))).collected.hear (.queryPoolResults q.pool values)
        with timing := timing }
      (Bracket.after acquires bracket
        [.queryPoolResults q.pool values, .fenceStatus .release (.ok true)]) := by
  obtain ⟨b, rfl, hb, hq, hread⟩ := h.mayRead hreleased hactive huncollected hquery
  cases h with
  | within hquery hacquired =>
      refine .within hquery hacquired ⟨hb.importId, hb.shown, hb.released, hb.active,
        hb.acquire, hb.release, ?_, ?_⟩
      · intro huncollected
        have hcollected : (c.timingCollected || c.timingActive) = false := huncollected
        rw [hactive, Bool.or_true] at hcollected
        cases hcollected
      · intro t ht
        obtain ⟨v, rfl, rfl⟩ := htiming t ht
        exact ⟨q, v, hq, congrArg _ hread.unread, rfl⟩

/-- A bracket that has not been read has no sample. -/
theorem Tracks.timing_eq_none {q : TimestampQuery} (h : Tracks images query c bracket)
    (hreleased : c.releaseSubmitted = true) (hactive : c.timingActive = true)
    (huncollected : c.timingCollected = false) (hquery : c.timestampQuery = some q) :
    c.timing = none := by
  obtain ⟨b, -, hb, -, -⟩ := h.mayRead hreleased hactive huncollected hquery
  cases htiming : c.timing with
  | none => rfl
  | some t =>
      obtain ⟨q, values, -, hreads, -⟩ := hb.timing t htiming
      rw [hb.unread huncollected] at hreads
      cases hreads

theorem CompleteOutcome.tracks {r : CompleteResults} (h : CompleteOutcome r c c')
    (hc : c.heard = []) (ht : Tracks images query c bracket) :
    Tracks images query c' (Bracket.after acquires bracket c'.heard) := by
  cases h with
  | unasked => exact hc.symm ▸ ht
  | unsignaled _ _ hpoll => exact hpoll.tracks hc ht
  | unread =>
      rw [collected_heard, hear_heard, hc]
      exact (ht.hear acquires rfl).collected
  | @read q values hreleased _ hactive huncollected hquery =>
      show Tracks images query _ (Bracket.after acquires bracket (LaneCore.hear _ _).heard)
      rw [hear_heard, collected_heard, hear_heard, hc]
      refine ht.read hreleased hactive huncollected hquery fun t heq => ?_
      cases heq
      exact ⟨values, rfl, rfl⟩
  | @readFailed q e hreleased _ hactive huncollected hquery =>
      have htiming := ht.timing_eq_none hreleased hactive huncollected hquery
      rw [hear_heard, collected_heard, hear_heard, hc]
      refine ht.read hreleased hactive huncollected hquery fun t heq => ?_
      have hnone : some t = none := heq.symm.trans htiming
      cases hnone
  | @readLost q hreleased _ hactive huncollected hquery =>
      have htiming := ht.timing_eq_none hreleased hactive huncollected hquery
      rw [hear_heard, hear_heard, collected_heard, hear_heard, hc]
      refine (ht.read hreleased hactive huncollected hquery fun t heq => ?_).hear acquires rfl
      have hnone : some t = none := heq.symm.trans htiming
      cases hnone

/-! ## Calls read timed brackets only -/

/-- Does the event read timestamps? -/
def LaneEvent.isRead : LaneEvent → Bool
  | queryPoolResults _ _ => true
  | _ => false

theorem timedRead_of_isRead (he : e.isRead = false) {past : List LaneEvent} :
    TimedRead acquires bracket past e := by
  rintro pool values rfl
  cases he

theorem PollOutcome.legal {side : Side} {status : Except VkError Bool}
    (h : PollOutcome side status c c') (hc : c.heard = []) :
    Legal (TimedRead acquires bracket) c'.heard := by
  cases h with
  | answered =>
      rw [hear_heard, hc]
      exact .cons .nil (timedRead_of_isRead rfl)
  | lost =>
      rw [hear_heard, hear_heard, hc]
      exact .cons (.cons .nil (timedRead_of_isRead rfl)) (timedRead_of_isRead rfl)

theorem AcquireOutcome.legal {view : ImportView} {r : AcquireResults}
    (h : AcquireOutcome view r c c') (hc : c.heard = []) :
    Legal (TimedRead acquires bracket) c'.heard := by
  cases h with
  | refused => exact hc.symm ▸ .nil
  | unsubmitted => exact chosen_heard.trans hc ▸ .nil
  | submitted =>
      rw [acquired_heard, hear_heard, chosen_heard, hc]
      exact .cons .nil (timedRead_of_isRead rfl)
  | lost =>
      rw [hear_heard, acquired_heard, hear_heard, chosen_heard, hc]
      exact .cons (.cons .nil (timedRead_of_isRead rfl)) (timedRead_of_isRead rfl)
  | failed =>
      rw [hear_heard, chosen_heard, hc]
      exact .cons .nil (timedRead_of_isRead rfl)

theorem ReleaseOutcome.legal {view : ImportView} {r : ReleaseResults}
    (h : ReleaseOutcome view r c c') (hc : c.heard = []) :
    Legal (TimedRead acquires bracket) c'.heard := by
  cases h with
  | refused => exact hc.symm ▸ .nil
  | submitted =>
      show Legal _ (c.hear _).heard
      rw [hear_heard, hc]
      exact .cons .nil (timedRead_of_isRead rfl)
  | lost =>
      rw [hear_heard, hear_heard, hc]
      exact .cons (.cons .nil (timedRead_of_isRead rfl)) (timedRead_of_isRead rfl)
  | failed =>
      rw [hear_heard, hc]
      exact .cons .nil (timedRead_of_isRead rfl)

/-- **The poll of a release reads no bracket but one that may be read.** -/
theorem CompleteOutcome.legal {r : CompleteResults} (h : CompleteOutcome r c c')
    (hc : c.heard = []) (ht : Tracks images query c bracket) :
    Legal (TimedRead acquires bracket) c'.heard := by
  have hpolled : Legal (TimedRead acquires bracket) [.fenceStatus .release (.ok true)] :=
    .cons .nil (timedRead_of_isRead rfl)
  have hread {q : TimestampQuery} {values : Except VkError (UInt64 × UInt64 × UInt64)}
      (hreleased : c.releaseSubmitted = true) (hactive : c.timingActive = true)
      (huncollected : c.timingCollected = false) (hquery : c.timestampQuery = some q) :
      Legal (TimedRead acquires bracket)
        [.queryPoolResults q.pool values, .fenceStatus .release (.ok true)] := by
    refine .cons hpolled fun pool values heq => ?_
    cases heq
    obtain ⟨b, rfl, -, -, hread⟩ := ht.mayRead hreleased hactive huncollected hquery
    exact ⟨_, rfl, hread⟩
  cases h with
  | unasked => exact hc.symm ▸ .nil
  | unsignaled _ _ hpoll => exact hpoll.legal hc
  | unread =>
      rw [collected_heard, hear_heard, hc]
      exact hpolled
  | read hreleased _ hactive huncollected hquery =>
      show Legal _ (LaneCore.hear _ _).heard
      rw [hear_heard, collected_heard, hear_heard, hc]
      exact hread hreleased hactive huncollected hquery
  | readFailed hreleased _ hactive huncollected hquery =>
      rw [hear_heard, collected_heard, hear_heard, hc]
      exact hread hreleased hactive huncollected hquery
  | readLost hreleased _ hactive huncollected hquery =>
      rw [hear_heard, hear_heard, collected_heard, hear_heard, hc]
      exact .cons (hread hreleased hactive huncollected hquery) (timedRead_of_isRead rfl)

theorem ResetOutcome.legal {status : Except VkError Bool} (h : ResetOutcome status c c')
    (hc : c.heard = []) : Legal (TimedRead acquires bracket) c'.heard := by
  have hpolled : Legal (TimedRead acquires bracket) [.fenceStatus .release status] :=
    .cons .nil (timedRead_of_isRead rfl)
  cases h with
  | refused => exact hc.symm ▸ .nil
  | polled =>
      rw [hear_heard, hc]
      exact hpolled
  | cleared =>
      show Legal _ (c.hear _).heard
      rw [hear_heard, hc]
      exact hpolled

theorem DropOutcome.legal {status : Except VkError Bool} (h : DropOutcome status c c')
    (hc : c.heard = []) : Legal (TimedRead acquires bracket) c'.heard := by
  cases h with
  | idle => exact hc.symm ▸ .nil
  | finished =>
      show Legal _ (c.hear _).heard
      rw [hear_heard, hc]
      exact .cons .nil (timedRead_of_isRead rfl)
  | unreleased =>
      rw [hear_heard, hc]
      exact .cons .nil (timedRead_of_isRead rfl)
  | unfinished =>
      rw [hear_heard, hear_heard, hc]
      exact .cons (.cons .nil (timedRead_of_isRead rfl)) (timedRead_of_isRead rfl)

/-! ## What is not heard -/

theorem next_of_unheard (he : e.heard = false) : Bracket.next acquires e bracket = bracket := by
  cases e with
  | submit | fenceStatus | queryPoolResults | markDeviceLost => cases he
  | _ => rfl

theorem after_filter_heard {events : List LaneEvent} :
    Bracket.after acquires bracket (events.filter (·.heard)) =
      Bracket.after acquires bracket events := by
  induction events with
  | nil => rfl
  | cons e events ih =>
      cases he : e.heard with
      | true => rw [List.filter_cons_of_pos he, after_cons, after_cons, ih]
      | false => rw [List.filter_cons_of_neg (by simp [he]), ih, after_cons, next_of_unheard he]

theorem legal_of_filter_heard {events : List LaneEvent}
    (h : Legal (TimedRead acquires bracket) (events.filter (·.heard))) :
    Legal (TimedRead acquires bracket) events := by
  induction events with
  | nil => exact .nil
  | cons e events ih =>
      cases he : e.heard with
      | true =>
          rw [List.filter_cons_of_pos he] at h
          cases h with
          | cons h hallowed =>
              refine .cons (ih h) fun pool values heq => ?_
              rw [← after_filter_heard]
              exact hallowed pool values heq
      | false =>
          rw [List.filter_cons_of_neg (by simp [he])] at h
          refine .cons (ih h) (timedRead_of_isRead ?_)
          cases e with
          | queryPoolResults => cases he
          | _ => rfl

end

/-! ## Runs keep track -/

section
variable {images : ImageTable} {query : Option TimestampQuery} {s : TimedLane}

/-- A timed lane is on track. -/
def TimedLane.Tracked (images : ImageTable) (query : Option TimestampQuery) (s : TimedLane) :
    Prop :=
  Tracks images query (LaneState.mk s.lane []).core s.bracket

theorem tracked_new (family : QueueFamily) : (TimedLane.new family query).Tracked images query :=
  .idle rfl rfl rfl rfl

/-- A call that does not end the bracket. -/
theorem tracked_step {call : LaneCall} (hends : call.ends s.lane = false)
    (h : Tracks images query (call.perform ⟨s.lane, []⟩).core
      (Bracket.after call.acquires s.bracket (call.perform ⟨s.lane, []⟩).core.heard)) :
    (s.step call).Tracked images query := by
  have hbracket : (s.step call).bracket =
      Bracket.after call.acquires s.bracket (call.perform ⟨s.lane, []⟩).events := by
    show (if call.ends s.lane then _ else _) = _
    rw [hends]
    rfl
  show Tracks images query _ (s.step call).bracket
  rw [hbracket, ← after_filter_heard]
  exact h.rehear []

/-- A reset that succeeds ends the bracket, and any other stays in it. -/
theorem tracked_reset {status : Except VkError Bool} (h : s.Tracked images query) :
    (s.step (.resetForReuse status)).Tracked images query := by
  have hpost := @triple_resetForReuse_core _ status ⟨s.lane, []⟩ rfl
  match hexec : (resetForReuse status).exec ⟨s.lane, []⟩, hpost with
  | (.ok _, w), ⟨_, _, hw⟩ =>
      have hends : (LaneCall.resetForReuse status).ends s.lane = true := by
        show ((resetForReuse status).exec ⟨s.lane, []⟩).1.toBool = true
        rw [hexec]
        rfl
      have hlane : (s.step (.resetForReuse status)).lane = w.lane := by
        show ((resetForReuse status).exec ⟨s.lane, []⟩).2.lane = w.lane
        rw [hexec]
      have hbracket : (s.step (.resetForReuse status)).bracket = none := by
        show (if (LaneCall.resetForReuse status).ends s.lane then none else _) = _
        rw [hends]
        rfl
      show Tracks images query (LaneState.mk (s.step _).lane []).core (s.step _).bracket
      rw [hlane, hbracket]
      have hcleared : Tracks images query w.core none := by
        rw [hw]
        exact .idle h.query_eq rfl rfl rfl
      exact hcleared.rehear []
  | (.error _, w), hw =>
      have hperform : (LaneCall.resetForReuse status).perform ⟨s.lane, []⟩ = w := by
        show ((resetForReuse status).exec ⟨s.lane, []⟩).2 = w
        rw [hexec]
      refine tracked_step ?_ ?_
      · show ((resetForReuse status).exec ⟨s.lane, []⟩).1.toBool = false
        rw [hexec]
        rfl
      · rw [hperform]
        rcases hw with ⟨-, hw⟩ | ⟨-, hw⟩
        · rw [hw]
          exact h
        · rw [hw, hear_heard]
          exact h.hear none rfl

/-- **A call keeps a lane on track.** -/
theorem TimedLane.Tracked.step (h : s.Tracked images query) {call : LaneCall}
    (hshown : call.Shown images) (hloss : ∀ e ∈ call.events s.lane, e.isLoss = false) :
    (s.step call).Tracked images query := by
  have houtcome := call.outcome ⟨s.lane, []⟩
  have hheard : (LaneState.mk s.lane []).core.heard = [] := rfl
  cases call with
  | submitAcquire view fd r =>
      refine tracked_step rfl (houtcome.tracks hheard h hshown fun e he => hloss e ?_)
      exact (List.mem_filter.mp he).1
  | sourceReleaseComplete status =>
      refine tracked_step rfl ?_
      rcases houtcome with heq | houtcome
      · rw [heq]
        exact h
      · exact houtcome.tracks hheard h
  | ganeshWaitAccepted semaphore | ganeshWaitRejected semaphore =>
      refine tracked_step rfl ?_
      exact houtcome.symm ▸ h
  | submitRelease view r => exact tracked_step rfl (houtcome.tracks hheard h hshown)
  | releaseComplete r => exact tracked_step rfl (houtcome.tracks hheard h)
  | takeTiming =>
      refine tracked_step rfl ?_
      have hcore : (LaneCall.takeTiming.perform ⟨s.lane, []⟩).core =
        { (LaneState.mk s.lane []).core with timing := none } := houtcome
      rw [hcore]
      exact h.taken
  | resetForReuse status => exact tracked_reset h

theorem TimedLane.Tracked.run {calls : List LaneCall} (h : s.Tracked images query)
    (hshown : ∀ call ∈ calls, call.Shown images) (hloss : s.Lossless calls) :
    (s.run calls).Tracked images query := by
  induction calls generalizing s with
  | nil => exact h
  | cons call calls ih =>
      obtain ⟨hcall, hcalls⟩ := List.forall_mem_cons.mp hshown
      exact ih (h.step hcall hloss.1) hcalls hloss.2

/-- An operation of a lane on track reads timed brackets only. -/
theorem TimedLane.Tracked.legal (h : s.Tracked images query) (op : LaneOp)
    (acquires : Option (ImportView × Bool)) :
    Legal (TimedRead acquires s.bracket) (op.run s.lane).events := by
  have hheard : (LaneState.mk s.lane []).core.heard = [] := rfl
  refine legal_of_filter_heard ?_
  cases op with
  | drop status => exact (drop_outcome status ⟨s.lane, []⟩).legal hheard
  | call call =>
      have houtcome := call.outcome ⟨s.lane, []⟩
      show Legal _ (call.perform ⟨s.lane, []⟩).core.heard
      have hunheard (heq : (call.perform ⟨s.lane, []⟩).core.heard = []) :
          Legal (TimedRead acquires s.bracket) (call.perform ⟨s.lane, []⟩).core.heard :=
        heq.symm ▸ .nil
      cases call with
      | submitAcquire view fd r => exact houtcome.legal hheard
      | sourceReleaseComplete status =>
          rcases houtcome with heq | houtcome
          · exact hunheard (congrArg LaneCore.heard heq)
          · exact houtcome.legal hheard
      | ganeshWaitAccepted semaphore | ganeshWaitRejected semaphore | takeTiming =>
          exact hunheard (congrArg LaneCore.heard houtcome)
      | submitRelease view r => exact houtcome.legal hheard
      | releaseComplete r => exact houtcome.legal hheard h
      | resetForReuse status => exact houtcome.legal hheard

/-- The image that an operation acquires, and the choice to time it. -/
def LaneOp.acquires : LaneOp → Option (ImportView × Bool)
  | call c => c.acquires
  | drop _ => none

/-- What a lane does next is right for the bracket it is in: the query pool is read only if
the bracket may be read, and a sample that is taken is the one of the bracket's read. -/
structure TimedLane.Timely (query : Option TimestampQuery) (s : TimedLane) : Prop where
  /-- What an operation may read. -/
  reads : ∀ op : LaneOp, Legal (TimedRead op.acquires s.bracket) (op.run s.lane).events
  /-- What a sample is of. -/
  sample : ∀ t, (takeTiming.exec ⟨s.lane, []⟩).1 = .ok (some t) →
    ∃ b q values, s.bracket = some b ∧ query = some q ∧ b.reads = [(q.pool, .ok values)] ∧
      t = q.sample values

/-- **A lane reads its query pool at most once for a bracket, when all its timestamps have
been written, and gives out the sample of no other bracket.** -/
theorem timestamp_brackets (family : QueueFamily) (query : Option TimestampQuery)
    (images : ImageTable) (calls : List LaneCall) (hshown : ∀ call ∈ calls, call.Shown images)
    (hloss : (TimedLane.new family query).Lossless calls) :
    ((TimedLane.new family query).run calls).Timely query := by
  have hnew : (TimedLane.new family query).Tracked images query := tracked_new family
  have htracked := hnew.run hshown hloss
  refine ⟨fun op => htracked.legal op op.acquires, fun t ht => ?_⟩
  have htiming : ((TimedLane.new family query).run calls).lane.timing = some t :=
    Except.ok.inj ht
  unfold TimedLane.Tracked at htracked
  generalize hbracket : ((TimedLane.new family query).run calls).bracket = bracket at htracked ⊢
  cases htracked with
  | idle _ _ _ hnone =>
      have hsome : some t = none := htiming.symm.trans hnone
      cases hsome
  | within _ _ hb =>
      obtain ⟨q, values, hq, hreads, ht⟩ := hb.timing t htiming
      exact ⟨_, q, values, rfl, hq, hreads, ht⟩

end

/-- An image that is staged by the packed pipeline. -/
def sampleStagedImage : ImportedDmaBufImage where
  id := 1
  kind := .stagedPacked {
    source := ⟨⟨0, .staged ⟨1⟩ ⟨⟨2⟩, 16⟩⟩, 0⟩
    output := ⟨⟨0, (2, 2), ⟨0⟩, ⟨3⟩, ⟨4⟩, ⟨⟨0⟩, ⟨5⟩⟩⟩, 0⟩
    pipeline := ⟨6, 7⟩
    pushConstants := ⟨2, 2, 0, 8, 0⟩ }
  dimensions := (2, 2)
  modifier := 0

/-- One work group that unpacks two columns and two rows. -/
def sampleStagedPlan : StagedAcquirePlan :=
  ⟨⟨2⟩, 16, .bgra ⟨5⟩, false, ⟨3⟩, ⟨6, 7⟩, .packed ⟨2, 2, 0, 8, 0⟩, (1, 1)⟩

/-- An image staged by that plan. -/
def sampleStagedView : ImportView := ⟨⟨1⟩, true, ⟨5⟩, .stagedCompute sampleStagedPlan⟩

/-- A table with that image. -/
def sampleImageTable : ImageTable := fun id => if id = ⟨1⟩ then some sampleStagedImage else none

/-- A pool whose ticks are nanoseconds. -/
def sampleTimestampQuery : TimestampQuery := ⟨9, id, 64⟩

/-- An acquire that makes the semaphore 4. -/
def sampleTimedAcquire (sampled : Bool) (submit : Option VkError) : LaneCall :=
  .submitAcquire sampleStagedView none
    ⟨⟨.ok 3, none, none⟩, .ok 4, none, sampled, none, .success, submit⟩

/-- An acquire that is not submitted, then one that is and its release. -/
def sampleTimedCalls : List LaneCall := [
  sampleTimedAcquire false (some .outOfHostMemory),
  sampleTimedAcquire true none,
  .ganeshWaitAccepted 4,
  .submitRelease sampleStagedView ⟨none, none, .success, none⟩]

/-- The poll that sees the release signalled. -/
def sampleTimedPoll : LaneOp := .call (.releaseComplete ⟨.ok true, .ok (10, 20, 40)⟩)

/-- A bracket whose pool is read. -/
theorem timestamp_brackets_sample :
    ((TimedLane.new 0 (some sampleTimestampQuery)).run sampleTimedCalls).Timely
        (some sampleTimestampQuery) ∧
      .queryPoolResults 9 (.ok (10, 20, 40)) ∈ (sampleTimedPoll.run
        ((TimedLane.new 0 (some sampleTimestampQuery)).run sampleTimedCalls).lane).events := by
  have hview : ∃ imported, sampleImageTable sampleStagedView.importId = some imported ∧
      imported.Shows sampleStagedView := ⟨sampleStagedImage, rfl, rfl, rfl, rfl, false, rfl⟩
  refine ⟨timestamp_brackets 0 _ sampleImageTable sampleTimedCalls ?_ ?_, List.mem_cons_self⟩
  · simp only [sampleTimedCalls, List.forall_mem_cons]
    exact ⟨hview, hview, trivial, hview, fun _ h => absurd h List.not_mem_nil⟩
  · have hlossless {events : List LaneEvent} (h : events.any (·.isLoss) = false) :
        ∀ e ∈ events, e.isLoss = false :=
      fun e he => Bool.eq_false_of_not_eq_true (List.any_eq_false.mp h e he)
    exact ⟨hlossless rfl, hlossless rfl, hlossless rfl, hlossless rfl, trivial⟩

end VideoInterop.Vulkan
