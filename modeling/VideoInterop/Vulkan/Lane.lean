import VideoInterop.Lib.Effect
import VideoInterop.Vulkan.Record

/-!
# The synchronization lane

A lane drives one imported image at a time from its acquire to its release: an
`ImportedImageSync`.  Its methods are effects on the lane.  Every Vulkan call can
fail, so a method gets the results of its calls as an argument, `AcquireResults`
for example, and any results are possible.

What a lane does to the device and to the renderer is kept as a history of
events.  The history and the serial numbers of semaphores are not in the code.
They tell two semaphores apart that get the same handle one after the other.
-/

namespace VideoInterop.Vulkan

open VideoInterop (Effect)
open VideoInterop.Effect (failWhen expect onFailure)

/-! ## Errors -/

/-- What a lane was doing when it failed. -/
inductive SyncErrorKind where
  | temporarySemaphoreImport
  | acquireSubmit
  | releaseSubmit
  | releaseFenceCreate
  | sourceFencePoll
  | releaseFencePoll
  | other
deriving DecidableEq

/-- `ImportedImageSyncError`. -/
structure SyncError where
  /-- What it was doing. -/
  kind : SyncErrorKind
  /-- Did the device say it was lost? -/
  deviceLost : Bool
  /-- The text. -/
  message : String
deriving DecidableEq

/-- `ImportedImageSyncError::new`. -/
def SyncError.new (kind : SyncErrorKind) (message : String) : SyncError := ⟨kind, false, message⟩

/-- `ImportedImageSyncError::device_lost`. -/
def SyncError.lost (kind : SyncErrorKind) (message : String) : SyncError := ⟨kind, true, message⟩

/-! ## The lane -/

/-- The number of an import. -/
structure ImportId where
  /-- The number. -/
  get : UInt64
deriving DecidableEq

/-- A semaphore of a lane.  The serial number counts the lane's semaphores. -/
structure Semaphore where
  /-- The handle. -/
  handle : Nat
  /-- The number among the lane's semaphores. -/
  serial : Nat
deriving DecidableEq

/-- A lane has a fence and a command pool for its acquires and for its releases. -/
inductive Side where
  | acquire
  | release
deriving DecidableEq

/-- A pool of three timestamps.  The period turns ticks into nanoseconds. -/
structure TimestampQuery where
  /-- The query pool. -/
  pool : Nat
  /-- From ticks to nanoseconds. -/
  periodNs : UInt64 → UInt64
  /-- The valid bits of a timestamp. -/
  validBits : UInt32

/-- `VulkanVideoTiming`. -/
structure VideoTiming where
  /-- From the first timestamp to the second. -/
  conversionNs : UInt64
  /-- From the second to the third. -/
  compositionNs : UInt64
  /-- From the first to the third. -/
  totalGpuNs : UInt64
deriving DecidableEq

/-- A lane.  `family` is the queue family of its device, `semaphores` the number
of semaphores the lane has made. -/
structure ImportedImageSync where
  /-- The queue family. -/
  family : QueueFamily
  /-- Carries the producer's fence. -/
  importedAcquire : Option Semaphore
  /-- Signalled by the acquire, until the renderer takes it. -/
  readySemaphore : Option Semaphore
  /-- The import that was acquired. -/
  importId : Option ImportId
  /-- Was it a staged one? -/
  stagedImport : Bool
  /-- Was an acquire submitted? -/
  acquireSubmitted : Bool
  /-- Did the renderer take the wait? -/
  rendererAccepted : Bool
  /-- Did the renderer refuse the wait? -/
  rendererRejected : Bool
  /-- Was a release submitted? -/
  releaseSubmitted : Bool
  /-- The timestamps, if the device has them. -/
  timestampQuery : Option TimestampQuery
  /-- Does this bracket take timestamps? -/
  timingActive : Bool
  /-- Were they read? -/
  timingCollected : Bool
  /-- What they said, until it is taken. -/
  timing : Option VideoTiming
  /-- How many semaphores the lane has made. -/
  semaphores : Nat

/-- What a lane asks an imported image for. -/
structure ImportView where
  /-- The number of the import. -/
  importId : ImportId
  /-- Is the image copied before it is sampled? -/
  isStaged : Bool
  /-- The image that a direct import gives back. -/
  image : Image
  /-- What an acquire is to record. -/
  acquirePlan : AcquirePlan

/-! ## Events -/

/-- What a semaphore is made for: to be signalled by an acquire, or to carry a
producer's sync file. -/
inductive Purpose where
  | ready
  | payload
deriving DecidableEq

/-- The calls of a lane. -/
inductive LaneEvent where
  /-- A semaphore is made. -/
  | createSemaphore (purpose : Purpose) (s : Semaphore)
  /-- A sync file becomes its payload. -/
  | importPayload (s : Semaphore)
  /-- A semaphore is destroyed. -/
  | destroySemaphore (s : Semaphore)
  /-- The renderer has taken the semaphore over. -/
  | handOver (s : Semaphore)
  /-- A fence is reset. -/
  | resetFence (side : Side)
  /-- A command pool is reset. -/
  | resetCommandPool (side : Side)
  /-- Commands are submitted, or fail to be. -/
  | submit (side : Side) (wait signal : Option Semaphore) (commands : List Command)
      (failure : Option VkError)
  /-- A fence is polled. -/
  | fenceStatus (side : Side) (status : Except VkError Bool)
  /-- The timestamps are read. -/
  | queryPoolResults (pool : Nat) (values : Except VkError (UInt64 × UInt64 × UInt64))
  /-- A report on GPU timing. -/
  | reportVideoGpuTiming (status : String)
  /-- The image is told that it was acquired. -/
  | markAcquireSubmitted (id : ImportId)
  /-- The device is marked as lost. -/
  | markDeviceLost
  | destroyQueryPool (pool : Nat)
  | destroyFence (side : Side)
  | destroyCommandPool (side : Side)

/-- A lane and the events of its life so far, latest first. -/
structure LaneState where
  /-- The lane. -/
  lane : ImportedImageSync
  /-- Its calls, latest first. -/
  events : List LaneEvent

/-- A lane as `new` returns it. -/
def LaneState.new (family : QueueFamily) (query : Option TimestampQuery) : LaneState where
  lane := {
    family := family
    importedAcquire := none
    readySemaphore := none
    importId := none
    stagedImport := false
    acquireSubmitted := false
    rendererAccepted := false
    rendererRejected := false
    releaseSubmitted := false
    timestampQuery := query
    timingActive := false
    timingCollected := false
    timing := none
    semaphores := 0
  }
  events := []

/-- Record a call. -/
def LaneState.log (e : LaneEvent) (w : LaneState) : LaneState := { w with events := e :: w.events }

/-- Change the lane. -/
def LaneState.set (f : ImportedImageSync → ImportedImageSync) (w : LaneState) : LaneState :=
  { w with lane := f w.lane }

section
variable {ε : Type}

/-- Read the lane. -/
def theLane : Effect LaneState ε ImportedImageSync := do
  return (← get).lane

/-- Record a call. -/
def event (e : LaneEvent) : Effect LaneState ε Unit := modify (LaneState.log e)

/-- Change the lane. -/
def update (f : ImportedImageSync → ImportedImageSync) : Effect LaneState ε Unit :=
  modify (LaneState.set f)

/-- The results of a call that makes a handle. -/
abbrev Made := Except VkError Nat

/-- A semaphore of the lane. -/
def createSemaphore (purpose : Purpose) (made : Made) (e : VkError → ε) :
    Effect LaneState ε Semaphore := do
  match made with
  | .error x => throw (e x)
  | .ok handle =>
    let serial := (← theLane).semaphores
    update fun lane => { lane with semaphores := serial + 1 }
    event (.createSemaphore purpose ⟨handle, serial⟩)
    return ⟨handle, serial⟩

end

/-! ## Acquire -/

/-- The results of importing a sync file.  A failed duplication has a text. -/
structure ImportResults where
  /-- The new semaphore. -/
  create : Made
  /-- The failure of duplicating the descriptor. -/
  duplicate : Option String
  /-- The failure of importing it. -/
  importFd : Option VkError

/-- Give a semaphore the payload of a sync file. -/
def importSyncFile (s : Semaphore) (r : ImportResults) : Effect LaneState String Unit := do
  expect r.duplicate fun error => "failed to duplicate Vulkan acquire sync fd: " ++ error
  expect r.importFd fun e => "failed to import Vulkan acquire sync fd: " ++ e.text
  event (.importPayload s)

/-- `import_temporary_sync_fd`. -/
def importTemporarySyncFd (sourceFd : Int) (reusable : Option Semaphore) (r : ImportResults) :
    Effect LaneState String Semaphore := do
  failWhen (sourceFd < 0) "imported Vulkan image has an invalid sync fd"
  match reusable with
  | some s =>
    importSyncFile s r
    return s
  | none =>
    let s ← createSemaphore .payload r.create fun e =>
      "failed to create sync-fd import semaphore: " ++ e.text
    onFailure (importSyncFile s r) (event (.destroySemaphore s))
    return s

/-- The results of the calls of an acquire.  `sampled` is the device's choice to
time this one. -/
structure AcquireResults where
  /-- Of importing the fence. -/
  payload : ImportResults
  /-- The semaphore the renderer waits for. -/
  createReady : Made
  /-- The failure of resetting the fence. -/
  resetFence : Option VkError
  /-- Is this bracket one to be timed? -/
  sampled : Bool
  /-- The failure of resetting the command pool. -/
  resetPool : Option VkError
  /-- Of recording the commands. -/
  record : RecordResults
  /-- The failure of the submission. -/
  submit : Option VkError

/-- The query pool, in a bracket that takes timestamps. -/
def activeTimestampQuery (lane : ImportedImageSync) : Option Nat :=
  if lane.timingActive then lane.timestampQuery.map (·.pool) else none

/-- The recording for a plan. -/
def recordPlan (family : QueueFamily) (r : RecordResults) (plan : AcquirePlan)
    (query : Option Nat) : Except String (List Command) :=
  match plan with
  | .directImage image => recordDirectAcquire family r image
  | .stagedCompute plan => recordStagedAcquire family r plan query
  | .stagedTransfer plan => recordStagedTransferAcquire family r plan query
  | .stagedImageTransfer plan => recordStagedImageTransferAcquire family r plan query

/-- Is the image sampled as it is? -/
def AcquirePlan.isDirectImage : AcquirePlan → Bool
  | directImage _ => true
  | _ => false

/-- Take a recording or pass its failure on. -/
def recorded (r : Except String (List Command)) : Effect LaneState String (List Command) :=
  match r with
  | .ok commands => pure commands
  | .error e => throw e

/-- `record_acquire`. -/
def recordAcquire (plan : AcquirePlan) (r : AcquireResults) :
    Effect LaneState String (List Command) := do
  -- The choice to time is made once for the acquire and its release.
  update fun lane => { lane with
    timingActive := !plan.isDirectImage && lane.timestampQuery.isSome && r.sampled }
  expect r.resetPool fun e => "failed to reset Vulkan acquire command pool: " ++ e.text
  event (.resetCommandPool .acquire)
  let lane ← theLane
  recorded (recordPlan lane.family r.record plan (activeTimestampQuery lane))

/-- Reset the source fence and record the acquire. -/
def prepareAcquire (plan : AcquirePlan) (r : AcquireResults) :
    Effect LaneState SyncError (List Command) := do
  expect r.resetFence fun e =>
    .new .acquireSubmit ("failed to reset staged source fence: " ++ e.text)
  event (.resetFence .acquire)
  ExceptT.adapt (.new .other) (recordAcquire plan r)

/-- Import the producer's sync file, if there is one, into a semaphore that the
lane keeps. -/
def importAcquireSync (acquireSyncFd : Option Int) (r : ImportResults) :
    Effect LaneState SyncError (Option Semaphore) := do
  match acquireSyncFd with
  | none => return none
  | some fd =>
    let s ← ExceptT.adapt (.new .temporarySemaphoreImport)
      (importTemporarySyncFd fd (← theLane).importedAcquire r)
    update fun lane => { lane with importedAcquire := some s }
    return some s

/-- The lane takes on an import whose acquire is, or may be, under way. -/
def ImportedImageSync.acquired (imported : ImportView) (ready : Semaphore)
    (lane : ImportedImageSync) : ImportedImageSync :=
  { lane with
    importId := some imported.importId
    stagedImport := imported.isStaged
    acquireSubmitted := true
    readySemaphore := some ready }

/-- `submit_acquire`. -/
def submitAcquire (imported : ImportView) (acquireSyncFd : Option Int) (r : AcquireResults) :
    Effect LaneState SyncError Semaphore := do
  let lane ← theLane
  failWhen (lane.acquireSubmitted || lane.releaseSubmitted)
    (.new .other "imported Vulkan image acquire was already submitted")
  let wait ← importAcquireSync acquireSyncFd r.payload
  let ready ← createSemaphore .ready r.createReady fun e =>
    .new .other ("failed to create imported-image ready semaphore: " ++ e.text)
  let commands ← onFailure (prepareAcquire imported.acquirePlan r) (event (.destroySemaphore ready))
  event (.submit .acquire wait (some ready) commands r.submit)
  match r.submit with
  | none =>
    event (.markAcquireSubmitted imported.importId)
    update (·.acquired imported ready)
    return ready
  | some .deviceLost =>
    -- Whether the submission runs cannot be known, so the lane keeps the semaphore.
    update (·.acquired imported ready)
    event .markDeviceLost
    throw (.lost .acquireSubmit "Vulkan device lost while acquiring imported image")
  | some e =>
    event (.destroySemaphore ready)
    throw (.new .acquireSubmit
      ("failed to submit imported Vulkan image acquire: " ++ e.text))

/-- A polled fence.  A lost device is marked. -/
def pollFence (side : Side) (status : Except VkError Bool) (kind : SyncErrorKind)
    (lost failed : String) : Effect LaneState SyncError Bool := do
  event (.fenceStatus side status)
  match status with
  | .ok signaled => return signaled
  | .error .deviceLost =>
    event .markDeviceLost
    throw (.lost kind lost)
  | .error e => throw (.new kind (failed ++ e.text))

/-- Whether the source of a staged import has gone back to its producer. -/
def sourceReleaseComplete (status : Except VkError Bool) : Effect LaneState SyncError Bool := do
  let lane ← theLane
  failWhen (!lane.acquireSubmitted)
    (.new .sourceFencePoll "cannot poll staged source release before acquire submission")
  if lane.stagedImport then
    pollFence .acquire status .sourceFencePoll
      "Vulkan device lost while polling staged source release"
      "failed to poll staged source-release fence: "
  else return false

/-! ## The renderer's answer -/

/-- `ganesh_wait_accepted`. -/
def ganeshWaitAccepted (semaphore : Nat) : Effect LaneState String Unit := do
  let lane ← theLane
  match lane.readySemaphore with
  | some ready =>
    failWhen (ready.handle != semaphore) "unexpected imported-image ready semaphore"
    update fun lane => { lane with readySemaphore := none, rendererAccepted := true }
    event (.handOver ready)
  | none => throw "unexpected imported-image ready semaphore"

theorem exec_ganeshWaitAccepted (semaphore : Nat) (w : LaneState) :
    (ganeshWaitAccepted semaphore).exec w =
      (w.lane.readySemaphore.elim
        (throw "unexpected imported-image ready semaphore") fun ready => do
        failWhen (ready.handle != semaphore) "unexpected imported-image ready semaphore"
        update fun lane => { lane with readySemaphore := none, rendererAccepted := true }
        event (.handOver ready) : Effect LaneState String Unit).exec w := by
  rcases w with ⟨⟨_, _, _ | ready⟩, _⟩ <;> rfl

/-- `ganesh_wait_rejected`. -/
def ganeshWaitRejected (semaphore : Nat) : Effect LaneState String Unit := do
  let lane ← theLane
  failWhen (lane.readySemaphore.map (·.handle) != some semaphore)
    "unexpected rejected imported-image ready semaphore"
  update fun lane => { lane with rendererRejected := true }

/-! ## Release -/

/-- The results of the calls of a release. -/
structure ReleaseResults where
  /-- The failure of resetting the fence. -/
  resetFence : Option VkError
  /-- The failure of resetting the command pool. -/
  resetPool : Option VkError
  /-- Of recording the commands. -/
  record : RecordResults
  /-- The failure of the submission. -/
  submit : Option VkError

/-- What a release records. -/
def recordRelease (lane : ImportedImageSync) (imported : ImportView) (r : RecordResults) :
    Except String (List Command) :=
  if imported.isStaged then recordStagedRelease r (activeTimestampQuery lane)
  else recordDirectRelease lane.family r imported.image

/-- `submit_release`. -/
def submitRelease (imported : ImportView) (r : ReleaseResults) :
    Effect LaneState SyncError Unit := do
  let lane ← theLane
  failWhen lane.releaseSubmitted
    (.new .releaseSubmit "imported Vulkan image release was already submitted")
  failWhen (!lane.acquireSubmitted || (!lane.rendererAccepted && !lane.rendererRejected))
    (.new .releaseSubmit "cannot release an imported Vulkan image before renderer acceptance")
  failWhen (lane.importId != some imported.importId)
    (.new .releaseSubmit (s!"imported Vulkan image release id {imported.importId.get} " ++
      s!"does not match acquired id {(lane.importId.map (·.get)).getD 0}"))
  expect r.resetFence fun e =>
    .new .releaseSubmit ("failed to reset imported-image release fence: " ++ e.text)
  event (.resetFence .release)
  expect r.resetPool fun e =>
    .new .releaseSubmit ("failed to reset imported-image release pool: " ++ e.text)
  event (.resetCommandPool .release)
  let commands ← ExceptT.adapt (.new .releaseSubmit)
    (recorded (recordRelease lane imported r.record))
  event (.submit .release none none commands r.submit)
  match r.submit with
  | none => update fun lane => { lane with releaseSubmitted := true }
  | some .deviceLost =>
    event .markDeviceLost
    throw (.lost .releaseSubmit "Vulkan device lost while releasing imported image")
  | some e =>
    throw (.new .releaseSubmit
      ("failed to submit imported Vulkan image release: " ++ e.text))

/-! ## Completion -/

/-- `timestamp_delta`: the ticks between two timestamps of so many bits. -/
def timestampDelta (start stop : UInt64) (validBits : UInt32) : UInt64 :=
  if validBits ≥ 64 then stop - start
  else (stop - start) &&& ((1 <<< validBits.toUInt64) - 1)

/-- The nanoseconds between three timestamps. -/
def TimestampQuery.sample (query : TimestampQuery) (values : UInt64 × UInt64 × UInt64) :
    VideoTiming :=
  let ns := fun start stop => query.periodNs (timestampDelta start stop query.validBits)
  ⟨ns values.1 values.2.1, ns values.2.1 values.2.2, ns values.1 values.2.2⟩

/-- The results that read as a sample that is not there. -/
def VkError.isTimingFailure (e : VkError) : Bool :=
  e = .notReady ∨ e = .outOfHostMemory ∨ e = .outOfDeviceMemory

/-- `collect_timing`: read the timestamps of a bracket, once. -/
def collectTiming (values : Except VkError (UInt64 × UInt64 × UInt64)) :
    Effect LaneState SyncError Unit := do
  let lane ← theLane
  if lane.timingActive then
    update fun lane => { lane with timingCollected := true }
    if lane.timingCollected then return
    else match lane.timestampQuery with
      | none => return
      | some query =>
        event (.queryPoolResults query.pool values)
        match values with
        | .ok values => update fun lane => { lane with timing := some (query.sample values) }
        | .error .deviceLost =>
          event .markDeviceLost
          throw (.lost .releaseFencePoll "Vulkan device lost while reading video timestamps")
        | .error e =>
          if e.isTimingFailure then event (.reportVideoGpuTiming "failed")
          else throw (.new .releaseFencePoll
            ("failed to read Vulkan video timestamps: " ++ e.text))
  else return

/-- The results of polling a release: the fence, and the timestamps where they
are read. -/
structure CompleteResults where
  /-- The state of the fence. -/
  status : Except VkError Bool
  /-- The timestamps. -/
  values : Except VkError (UInt64 × UInt64 × UInt64)

/-- `release_complete`. -/
def releaseComplete (r : CompleteResults) : Effect LaneState SyncError Bool := do
  let lane ← theLane
  if lane.releaseSubmitted then
    let signaled ← pollFence .release r.status .releaseFencePoll
      "Vulkan device lost while polling imported-image release"
      "failed to poll imported-image release fence: "
    if signaled then
      collectTiming r.values
      return true
    else return false
  else return false

/-- `take_timing`. -/
def takeTiming : Effect LaneState Empty (Option VideoTiming) := do
  let lane ← theLane
  update fun lane => { lane with timing := none }
  return lane.timing

/-! ## Reuse and drop -/

/-- The lane as it was before its acquire, but for the semaphore it imports into. -/
def ImportedImageSync.cleared (lane : ImportedImageSync) : ImportedImageSync :=
  { lane with
    importId := none
    stagedImport := false
    acquireSubmitted := false
    rendererAccepted := false
    rendererRejected := false
    releaseSubmitted := false
    timingActive := false
    timingCollected := false
    timing := none }

/-- Destroy the semaphore a renderer rejected. -/
def destroyRejected : Effect LaneState String Unit := do
  let lane ← theLane
  match lane.rendererRejected, lane.readySemaphore with
  | true, some s =>
    update fun lane => { lane with readySemaphore := none }
    event (.destroySemaphore s)
  | _, _ => return

theorem exec_destroyRejected (w : LaneState) :
    destroyRejected.exec w =
      (if w.lane.rendererRejected = true then
        w.lane.readySemaphore.elim (pure ()) fun s => do
          update fun lane => { lane with readySemaphore := none }
          event (.destroySemaphore s)
      else pure () : Effect LaneState String Unit).exec w := by
  rcases w with ⟨⟨_, _, _ | s, _, _, _, _, _ | _⟩, _⟩ <;> rfl

/-- `reset_for_reuse`. -/
def resetForReuse (status : Except VkError Bool) : Effect LaneState String Unit := do
  let lane ← theLane
  failWhen (!lane.releaseSubmitted) "cannot reuse Vulkan image sync before release submission"
  event (.fenceStatus .release status)
  match status with
  | .error e => throw ("failed to prove Vulkan sync lane idle: " ++ e.text)
  | .ok complete =>
    failWhen (!complete) "cannot reuse Vulkan image sync before exact completion"
    destroyRejected
    failWhen (← theLane).readySemaphore.isSome
      "cannot reuse Vulkan image sync with an unaccepted ready semaphore"
    update ImportedImageSync.cleared

/-- Destroy what the lane owns. -/
def destroyChildren : Effect LaneState Empty Unit := do
  let lane ← theLane
  if let some s := lane.importedAcquire then event (.destroySemaphore s)
  if let some s := lane.readySemaphore then event (.destroySemaphore s)
  if let some query := lane.timestampQuery then event (.destroyQueryPool query.pool)
  update fun lane => { lane with
    importedAcquire := none, readySemaphore := none, timestampQuery := none }
  event (.destroyFence .release)
  event (.destroyFence .acquire)
  event (.destroyCommandPool .release)
  event (.destroyCommandPool .acquire)

/-- Whether everything the lane has submitted is over.  The fence is polled only
after a release. -/
def safeToDestroy (status : Except VkError Bool) : Effect LaneState Empty Bool := do
  let lane ← theLane
  if !lane.acquireSubmitted then return true
  else if lane.releaseSubmitted then
    event (.fenceStatus .release status)
    match status with
    | .ok signaled => return signaled
    | .error _ => return false
  else return false

/-- The drop of a lane: everything it has, or nothing while the device may use it. -/
def drop (status : Except VkError Bool) : Effect LaneState Empty Unit := do
  if ← safeToDestroy status then destroyChildren else event .markDeviceLost

/-! ## Runs -/

/-- A method of the lane with its arguments and the results of its calls. -/
inductive LaneCall where
  | submitAcquire (imported : ImportView) (acquireSyncFd : Option Int) (r : AcquireResults)
  | sourceReleaseComplete (status : Except VkError Bool)
  | ganeshWaitAccepted (semaphore : Nat)
  | ganeshWaitRejected (semaphore : Nat)
  | submitRelease (imported : ImportView) (r : ReleaseResults)
  | releaseComplete (r : CompleteResults)
  | takeTiming
  | resetForReuse (status : Except VkError Bool)

/-- The state a call leaves, whether it fails or not. -/
def LaneCall.perform : LaneCall → LaneState → LaneState
  | submitAcquire imported fd r, w => ((Vulkan.submitAcquire imported fd r).exec w).2
  | sourceReleaseComplete status, w => ((Vulkan.sourceReleaseComplete status).exec w).2
  | ganeshWaitAccepted semaphore, w => ((Vulkan.ganeshWaitAccepted semaphore).exec w).2
  | ganeshWaitRejected semaphore, w => ((Vulkan.ganeshWaitRejected semaphore).exec w).2
  | submitRelease imported r, w => ((Vulkan.submitRelease imported r).exec w).2
  | releaseComplete r, w => ((Vulkan.releaseComplete r).exec w).2
  | takeTiming, w => ((Vulkan.takeTiming).exec w).2
  | resetForReuse status, w => ((Vulkan.resetForReuse status).exec w).2

/-- The state a sequence of calls leaves. -/
def LaneState.perform (w : LaneState) (calls : List LaneCall) : LaneState :=
  calls.foldl (fun w call => call.perform w) w

end VideoInterop.Vulkan
