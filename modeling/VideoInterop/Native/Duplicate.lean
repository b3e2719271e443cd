import VideoInterop.Lib.Effect
import VideoInterop.Native.Frame

/-!
# Duplicated frames

A consumer that keeps a frame duplicates the file descriptors it was lent, one for each
object and one for the acquire fence.  A duplicate is owned and is closed when its owner
is dropped.  If one duplication fails, what the frame owns so far is dropped.

The files that are open are a table that the calls change: `Files`.  What a call does to
it is kept as a history.  Whether a duplication fails, and with which number it succeeds,
is up to the kernel.
-/

namespace VideoInterop.Native

open VideoInterop (Effect)
open VideoInterop.Effect (failWhen onFailure Triple)

/-! ## File descriptors -/

/-- `io::Error`, by its number. -/
structure IoError where
  /-- The `errno`. -/
  rawOsError : Int32
deriving DecidableEq

/-- A call that reached the kernel. -/
inductive FdEvent where
  | dup (fd : Int32) (made : Except IoError Int32)
  | close (fd : Int32)
deriving DecidableEq

/-- Is it the close of this descriptor? -/
def FdEvent.closes (fd : Int32) : FdEvent → Bool
  | close x => x = fd
  | _ => false

/-- The open files of a process by their descriptors, the number of duplications tried,
and what was done to the table, latest first. -/
structure Files (File : Type) where
  /-- The file each open descriptor stands for. -/
  file : Int32 → Option File
  /-- How many duplications were tried. -/
  tried : Nat
  /-- The calls made, latest first. -/
  events : List FdEvent

/-- What the kernel answers to `F_DUPFD_CLOEXEC`.  A duplicate is of an open file, and
its number is a free one that is not negative. -/
structure Kernel (File : Type) where
  /-- The answer of `fcntl`, which may depend on the table and on how often it was asked. -/
  dupFdCloexec : (Int32 → Option File) → Nat → Int32 → Except IoError Int32
  /-- Only an open descriptor is duplicated. -/
  opened : ∀ file tried fd made, dupFdCloexec file tried fd = .ok made → (file fd).isSome
  /-- What is made was not open. -/
  free : ∀ file tried fd made, dupFdCloexec file tried fd = .ok made → file made = none
  /-- A descriptor is not negative. -/
  nonneg : ∀ file tried fd made, dupFdCloexec file tried fd = .ok made → 0 ≤ made

variable {File : Type}

/-- A descriptor comes to stand for another's file, or for none. -/
def Files.assign (w : Files File) (fd : Int32) (file : Option File) : Files File :=
  { w with file := Function.update w.file fd file }

/-- Records a call. -/
def Files.log (w : Files File) (e : FdEvent) : Files File := { w with events := e :: w.events }

/-- The table after an answer to a duplication. -/
def Files.dupped (w : Files File) (fd : Int32) (made : Except IoError Int32) : Files File :=
  match made with
  | .error _ => { w.log (.dup fd made) with tried := w.tried + 1 }
  | .ok x => { (w.assign x (w.file fd)).log (.dup fd made) with tried := w.tried + 1 }

/-- The table after a close. -/
def Files.closed (w : Files File) (fd : Int32) : Files File := (w.assign fd none).log (.close fd)

/-- `duplicate_fd_cloexec` -/
def duplicateFdCloexec (K : Kernel File) (fd : Int32) : Effect (Files File) IoError Int32 := do
  let w ← get
  let made := K.dupFdCloexec w.file w.tried fd
  set (w.dupped fd made)
  match made with
  | .ok made => return made
  | .error e => throw e

/-- What the drop of an `OwnedFd` does. -/
def dropFd {ε : Type} (fd : Int32) : Effect (Files File) ε Unit := modify (·.closed fd)

/-! ## Owned frames -/

/-- The errors of a duplication. -/
inductive DuplicateError where
  | invalidFrame (error : ValidationError)
  | negativeAcquireFence (fd : Int32)
  | duplicateObjectFd (index : Nat) (fd : Int32) (source : IoError)
  | duplicateAcquireFence (fd : Int32) (source : IoError)
deriving DecidableEq

/-- An object whose descriptor is owned. -/
structure OwnedObject where
  /-- The owned descriptor. -/
  fd : Int32
  /-- Its length in bytes. -/
  size : UInt64
  /-- Its modifier. -/
  modifier : Modifier
deriving DecidableEq

/-- A descriptor of owned objects. -/
structure OwnedDescriptor where
  /-- The version of the layout. -/
  version : UInt32
  /-- The owned objects. -/
  objects : List OwnedObject
  /-- The layers, which own nothing. -/
  layers : List Layer
deriving DecidableEq

/-- The fence of an owned frame. -/
inductive OwnedAcquireSync where
  | implicit
  | syncFile (fd : Int32)
deriving DecidableEq

/-- The storage of an owned frame. -/
inductive OwnedStorage where
  | binary (storage : BinaryStorage)
  | dmaBuf (descriptor : OwnedDescriptor)
deriving DecidableEq

/-- A frame that owns its descriptors. -/
structure OwnedFrame where
  /-- The columns. -/
  codedWidth : UInt32
  /-- The rows. -/
  codedHeight : UInt32
  /-- The visible part. -/
  visibleRect : Rect
  /-- The bytes or the owned objects. -/
  storage : OwnedStorage
  /-- The owned fence. -/
  acquireSync : OwnedAcquireSync
deriving DecidableEq

/-- What the drop of a vector of objects does, from its first object on. -/
def dropObjects {ε : Type} : List OwnedObject → Effect (Files File) ε Unit
  | [] => return
  | object :: objects => do
    dropFd object.fd
    dropObjects objects

/-- The drop of a storage closes its objects. -/
def OwnedStorage.drop {ε : Type} : OwnedStorage → Effect (Files File) ε Unit
  | binary _ => return
  | dmaBuf descriptor => dropObjects descriptor.objects

/-! ## Duplication -/

/-- A check whose failure is that of a duplication. -/
def checked {ε ε' α : Type} (x : Except ε α) (f : ε → ε') : Effect (Files File) ε' α :=
  match x with
  | .ok a => return a
  | .error e => throw (f e)

/-- Collect the duplicates of the objects from an index on.  Those before them are
dropped if one fails. -/
def duplicateObjects (duplicate : Int32 → Effect (Files File) IoError Int32) :
    List OwnedObject → Nat → List Object → Effect (Files File) DuplicateError (List OwnedObject)
  | owned, _, [] => return owned
  | owned, index, object :: objects => do
    let fd ← onFailure
      (ExceptT.adapt (.duplicateObjectFd index object.fd) (duplicate object.fd)) (dropObjects owned)
    duplicateObjects duplicate (owned ++ [⟨fd, object.size, object.modifier⟩]) (index + 1) objects

/-- `Descriptor::duplicate_with`: validates before anything is duplicated. -/
def Descriptor.duplicateWith (descriptor : Descriptor)
    (duplicate : Int32 → Effect (Files File) IoError Int32) :
    Effect (Files File) DuplicateError OwnedDescriptor := do
  checked descriptor.validate .invalidFrame
  let objects ← duplicateObjects duplicate [] 0 descriptor.objects
  return ⟨descriptor.version, objects, descriptor.layers⟩

/-- `Descriptor::duplicate_cloexec` -/
def Descriptor.duplicateCloexec (K : Kernel File) (descriptor : Descriptor) :
    Effect (Files File) DuplicateError OwnedDescriptor :=
  descriptor.duplicateWith (duplicateFdCloexec K)

/-- `Storage::duplicate_cloexec` -/
def Storage.duplicateCloexec (K : Kernel File) (storage : Storage) :
    Effect (Files File) DuplicateError OwnedStorage :=
  match storage with
  | .binary storage => return .binary storage
  | .dmaBuf descriptor => OwnedStorage.dmaBuf <$> descriptor.duplicateCloexec K

/-- `SyncFile::duplicate_cloexec` -/
def SyncFile.duplicateCloexec (K : Kernel File) (syncFile : SyncFile) :
    Effect (Files File) DuplicateError Int32 := do
  failWhen (syncFile.acquireFenceFd < 0) (.negativeAcquireFence syncFile.acquireFenceFd)
  ExceptT.adapt (.duplicateAcquireFence syncFile.acquireFenceFd)
    (duplicateFdCloexec K syncFile.acquireFenceFd)

/-- `AcquireSync::duplicate_cloexec` -/
def AcquireSync.duplicateCloexec (K : Kernel File) (sync : AcquireSync) :
    Effect (Files File) DuplicateError OwnedAcquireSync :=
  match sync with
  | .implicit => return .implicit
  | .syncFile file => OwnedAcquireSync.syncFile <$> file.duplicateCloexec K

/-- A frame is refused, or its checks stop the program. -/
def DuplicateError.ofHalt : Halt ValidationError → Halt DuplicateError
  | .refused e => .refused (.invalidFrame e)
  | .crashed => .crashed

/-- `FrameDescriptor::duplicate_cloexec`.  A fence that fails drops the storage that was made
before it. -/
def FrameDescriptor.duplicateCloexec (K : Kernel File) (frame : FrameDescriptor) :
    Effect (Files File) (Halt DuplicateError) OwnedFrame := do
  checked frame.validate DuplicateError.ofHalt
  let storage ← ExceptT.adapt .refused (frame.storage.duplicateCloexec K)
  let acquireSync ← onFailure
    (ExceptT.adapt .refused (frame.acquireSync.duplicateCloexec K)) storage.drop
  return ⟨frame.codedWidth, frame.codedHeight, frame.visibleRect, storage, acquireSync⟩

/-! ## A run of duplications -/

section
variable {K : Kernel File} {w w' : Files File} {sources made : List Int32} {fd : Int32}

theorem exec_duplicateFdCloexec : (duplicateFdCloexec K fd).exec w =
    (K.dupFdCloexec w.file w.tried fd, w.dupped fd (K.dupFdCloexec w.file w.tried fd)) := by
  show Effect.exec (match K.dupFdCloexec w.file w.tried fd with
    | .ok made => (pure made : Effect (Files File) IoError Int32)
    | .error e => throw e) (w.dupped fd (K.dupFdCloexec w.file w.tried fd)) = _
  cases K.dupFdCloexec w.file w.tried fd <;> rfl

/-- Duplications that succeed one after the other, and what they make. -/
inductive Dups (K : Kernel File) : Files File → List Int32 → List Int32 → Files File → Prop
  | nil {w : Files File} : Dups K w [] [] w
  | cons {w w' : Files File} {fd x : Int32} {sources made : List Int32}
      (h : K.dupFdCloexec w.file w.tried fd = .ok x)
      (rest : Dups K (w.dupped fd (.ok x)) sources made w') :
      Dups K w (fd :: sources) (x :: made) w'

theorem Dups.append {w'' : Files File} {sources' made' : List Int32} (h : Dups K w sources made w')
    (h' : Dups K w' sources' made' w'') : Dups K w (sources ++ sources') (made ++ made') w'' := by
  induction h with
  | nil => exact h'
  | cons h _ ih => exact .cons h (ih h')

theorem Dups.length (h : Dups K w sources made w') : made.length = sources.length := by
  induction h with
  | nil => rfl
  | cons _ _ ih => simp [ih]

/-- The events of duplications that succeed, latest first. -/
def dupEvents (sources made : List Int32) : List FdEvent :=
  ((sources.zip made).map fun (fd, x) => .dup fd (.ok x)).reverse

theorem Dups.events (h : Dups K w sources made w') :
    w'.events = dupEvents sources made ++ w.events := by
  induction h with
  | nil => rfl
  | cons _ _ ih =>
      rw [ih]
      simp [dupEvents, Files.dupped, Files.log, Files.assign]

theorem dupped_file_made {x : Int32} : (w.dupped fd (.ok x)).file x = w.file fd :=
  Function.update_self ..

theorem dupped_file_of_ne {x y : Int32} (h : y ≠ x) : (w.dupped fd (.ok x)).file y = w.file y :=
  Function.update_of_ne h ..

/-- What is not made stays as it is. -/
theorem Dups.file_of_notMem (h : Dups K w sources made w') {y : Int32} (hy : y ∉ made) :
    w'.file y = w.file y := by
  induction h with
  | nil => rfl
  | cons _ _ ih =>
      obtain ⟨hne, hy⟩ := not_or.mp (mt List.mem_cons.mpr hy)
      rw [ih hy, dupped_file_of_ne hne]

/-- What is made was free. -/
theorem Dups.free (h : Dups K w sources made w') {x : Int32} (hx : x ∈ made) :
    w.file x = none := by
  induction h with
  | nil => cases hx
  | @cons w w' fd y sources made hdup rest ih =>
      rcases List.mem_cons.mp hx with rfl | hx
      · exact K.free _ _ _ _ hdup
      · by_cases hne : x = y
        · subst hne
          exact K.free _ _ _ _ hdup
        · have hfile : (w.dupped fd (.ok y)).file x = w.file x := dupped_file_of_ne hne
          rw [← hfile]
          exact ih hx

/-- What is open stays as it is. -/
theorem Dups.file_of_isSome (h : Dups K w sources made w') {y : Int32}
    (hy : (w.file y).isSome = true) : w'.file y = w.file y := by
  refine h.file_of_notMem fun hmem => ?_
  rw [h.free hmem] at hy
  cases hy

theorem Dups.nodup (h : Dups K w sources made w') : made.Nodup := by
  induction h with
  | nil => exact List.nodup_nil
  | @cons w w' fd x sources made hdup rest ih =>
      refine List.nodup_cons.mpr ⟨fun hx => ?_, ih⟩
      have hfree := rest.free hx
      have hopened := K.opened _ _ _ _ hdup
      rw [dupped_file_made] at hfree
      rw [hfree] at hopened
      cases hopened

/-- What is made of an open file stands for that file. -/
theorem Dups.file_made (h : Dups K w sources made w') {i : Nat} {x : Int32}
    (hfd : sources[i]? = some fd) (hx : made[i]? = some x) (hopen : (w.file fd).isSome = true) :
    w'.file x = w.file fd := by
  induction h generalizing i with
  | nil => cases hfd
  | @cons w w' fd' x' sources made hdup rest ih =>
      have hne : fd ≠ x' := by
        rintro rfl
        rw [K.free _ _ _ _ hdup] at hopen
        cases hopen
      cases i with
      | zero =>
          cases hfd
          cases hx
          have hmade : ((w.dupped fd (.ok x)).file x).isSome = true := by
            rw [dupped_file_made]
            exact hopen
          rw [rest.file_of_isSome hmade, dupped_file_made]
      | succ i =>
          have hfile := ih hfd hx (by rwa [dupped_file_of_ne hne])
          rwa [dupped_file_of_ne hne] at hfile

/-! ## Closing what was made -/

/-- Close one after the other. -/
def Files.closeAll (w : Files File) (fds : List Int32) : Files File := fds.foldl Files.closed w

theorem exec_dropObjects {ε : Type} {objects : List OwnedObject} :
    (dropObjects objects : Effect (Files File) ε Unit).exec w =
      (.ok (), w.closeAll (objects.map (·.fd))) := by
  induction objects generalizing w with
  | nil => rfl
  | cons object objects ih => exact ih

theorem closeAll_events {fds : List Int32} :
    (w.closeAll fds).events = (fds.map FdEvent.close).reverse ++ w.events := by
  induction fds generalizing w with
  | nil => rfl
  | cons fd fds ih =>
      show ((w.closed fd).closeAll fds).events = _
      rw [ih]
      simp [Files.closed, Files.log, Files.assign]

theorem closeAll_file {fds : List Int32} {y : Int32} :
    (w.closeAll fds).file y = if y ∈ fds then none else w.file y := by
  induction fds generalizing w with
  | nil => rfl
  | cons fd fds ih =>
      show ((w.closed fd).closeAll fds).file y = _
      rw [ih]
      by_cases hy : y ∈ fds
      · simp [hy]
      · by_cases heq : y = fd
        · simp [heq, Files.closed, Files.assign, Files.log]
        · simp [hy, heq, Files.closed, Files.assign, Files.log]

/-! ## Objects -/

/-- The objects that own what was made of others. -/
def ownedObjects (objects : List Object) (made : List Int32) : List OwnedObject :=
  List.zipWith (fun object fd => ⟨fd, object.size, object.modifier⟩) objects made

theorem ownedObjects_fds {objects : List Object} (hlength : made.length = objects.length) :
    (ownedObjects objects made).map (·.fd) = made := by
  induction made generalizing objects with
  | nil => cases objects <;> rfl
  | cons x made ih => cases objects with
    | nil => cases hlength
    | cons object objects => exact congrArg (x :: ·) (ih (Nat.succ.inj hlength))

/-- A duplication that fails after others, which are closed, and those before them. -/
structure DupsFail (K : Kernel File) (w : Files File) (before : List Int32) (fd : Int32)
    (source : IoError) (owned : List Int32) (after : Files File) : Prop where
  /-- The failure, and the table once everything owned is closed. -/
  fails : ∃ made w', Dups K w before made w' ∧ K.dupFdCloexec w'.file w'.tried fd = .error source ∧
    after = (w'.dupped fd (.error source)).closeAll (owned ++ made)

/-- What a collection of duplicates comes to. -/
inductive ObjectsOutcome (K : Kernel File) (w : Files File) (owned : List OwnedObject)
    (index : Nat) (objects : List Object) :
    Except DuplicateError (List OwnedObject) × Files File → Prop
  | done {made : List Int32} {w' : Files File} (h : Dups K w (objects.map (·.fd)) made w') :
      ObjectsOutcome K w owned index objects (.ok (owned ++ ownedObjects objects made), w')
  | failed {before after : List Object} {object : Object} {source : IoError} {w' : Files File}
      (hobjects : objects = before ++ object :: after)
      (h : DupsFail K w (before.map (·.fd)) object.fd source (owned.map (·.fd)) w') :
      ObjectsOutcome K w owned index objects
        (.error (.duplicateObjectFd (index + before.length) object.fd source), w')

/-- The duplicate of an object, or the drop of those before it. -/
theorem exec_duplicateObject {owned : List OwnedObject} {index : Nat} {object : Object} :
    (onFailure (ExceptT.adapt (DuplicateError.duplicateObjectFd index object.fd)
      (duplicateFdCloexec K object.fd)) (dropObjects owned)).exec w =
      match K.dupFdCloexec w.file w.tried object.fd with
      | .ok x => (.ok x, w.dupped object.fd (.ok x))
      | .error e => (.error (DuplicateError.duplicateObjectFd index object.fd e),
          (w.dupped object.fd (.error e)).closeAll (owned.map (·.fd))) := by
  have hdup := Effect.exec_adapt (DuplicateError.duplicateObjectFd index object.fd)
    (duplicateFdCloexec K object.fd) w
  rw [exec_duplicateFdCloexec] at hdup
  cases hmade : K.dupFdCloexec w.file w.tried object.fd with
  | ok x =>
      rw [hmade] at hdup
      exact Effect.exec_onFailure_ok hdup
  | error e =>
      rw [hmade] at hdup
      exact Effect.exec_onFailure_error hdup exec_dropObjects

/-- **A collection of duplicates is done for all objects, or fails at one and closes what
was made before it.** -/
theorem objectsOutcome {owned : List OwnedObject} {index : Nat} {objects : List Object} :
    ObjectsOutcome K w owned index objects
      ((duplicateObjects (duplicateFdCloexec K) owned index objects).exec w) := by
  induction objects generalizing w owned index with
  | nil =>
      have hdone : ObjectsOutcome K w owned index [] (.ok (owned ++ ownedObjects [] []), w) :=
        .done .nil
      rwa [ownedObjects, List.zipWith_nil_right, List.append_nil] at hdone
  | cons object objects ih =>
      rw [duplicateObjects, Effect.exec_bind, exec_duplicateObject]
      cases hmade : K.dupFdCloexec w.file w.tried object.fd with
      | error e =>
          have hobjects : object :: objects = [] ++ object :: objects := rfl
          exact .failed hobjects ⟨[], w, .nil, hmade, by rw [List.append_nil]⟩
      | ok x =>
          have hrest : ObjectsOutcome K (w.dupped object.fd (.ok x))
            (owned ++ [⟨x, object.size, object.modifier⟩]) (index + 1) objects _ := ih
          show ObjectsOutcome K w owned index (object :: objects) (Effect.exec _ _)
          generalize Effect.exec _ _ = result at hrest ⊢
          cases hrest with
          | @done made w' h =>
              have hall : Dups K w ((object :: objects).map (·.fd)) (x :: made) w' := .cons hmade h
              rw [List.append_assoc]
              exact .done hall
          | @failed before after object' source w' hobjects h =>
              obtain ⟨made, w'', hdups, herror, hafter⟩ := h
              have hindex : index + 1 + before.length = index + (object :: before).length := by
                rw [List.length_cons]
                omega
              rw [hindex]
              refine .failed (congrArg (object :: ·) hobjects)
                ⟨x :: made, w'', .cons hmade hdups, herror, ?_⟩
              rw [hafter, List.map_append, List.append_assoc]
              rfl

/-! ## Frames -/

/-- The objects a storage lends. -/
def Storage.objects : Storage → List Object
  | binary _ => []
  | dmaBuf descriptor => descriptor.objects

/-- The descriptor of a fence, if there is one. -/
def AcquireSync.fds : AcquireSync → List Int32
  | implicit => []
  | syncFile file => [file.acquireFenceFd]

/-- The descriptors that a frame lends, in the order in which they are duplicated. -/
def FrameDescriptor.lent (frame : FrameDescriptor) : List Int32 :=
  frame.storage.objects.map (·.fd) ++ frame.acquireSync.fds

/-- The descriptors an owned storage owns. -/
def OwnedStorage.fds : OwnedStorage → List Int32
  | binary _ => []
  | dmaBuf descriptor => descriptor.objects.map (·.fd)

/-- The descriptor an owned fence owns. -/
def OwnedAcquireSync.fds : OwnedAcquireSync → List Int32
  | implicit => []
  | syncFile fd => [fd]

/-- The descriptors an owned frame owns. -/
def OwnedFrame.fds (owned : OwnedFrame) : List Int32 := owned.storage.fds ++ owned.acquireSync.fds

/-- The error for a descriptor that a frame lends and that is not duplicated. -/
def FrameDescriptor.failure (frame : FrameDescriptor) (index : Nat) (fd : Int32)
    (source : IoError) : DuplicateError :=
  if index < frame.storage.objects.length then .duplicateObjectFd index fd source
  else .duplicateAcquireFence fd source

/-- Owned storage is what was lent but for its descriptors. -/
inductive Storage.OwnedAs : Storage → OwnedStorage → Prop
  | binary {storage : BinaryStorage} : OwnedAs (.binary storage) (.binary storage)
  | dmaBuf {descriptor : Descriptor} {objects : List OwnedObject}
      (h : List.Forall₂ (fun object owned => owned.size = object.size ∧
        owned.modifier = object.modifier) descriptor.objects objects) :
      OwnedAs (.dmaBuf descriptor) (.dmaBuf ⟨descriptor.version, objects, descriptor.layers⟩)

/-- A fence and its owned copy are of one kind. -/
inductive AcquireSync.OwnedAs : AcquireSync → OwnedAcquireSync → Prop
  | implicit : OwnedAs .implicit .implicit
  | syncFile {file : SyncFile} {fd : Int32} : OwnedAs (.syncFile file) (.syncFile fd)

/-- An owned frame that differs from the frame in its descriptors only. -/
structure FrameDescriptor.OwnedAs (frame : FrameDescriptor) (owned : OwnedFrame) : Prop where
  /-- The same width. -/
  codedWidth : owned.codedWidth = frame.codedWidth
  /-- The same height. -/
  codedHeight : owned.codedHeight = frame.codedHeight
  /-- The same visible part. -/
  visibleRect : owned.visibleRect = frame.visibleRect
  /-- The same bytes, or the same objects but for their descriptors. -/
  storage : frame.storage.OwnedAs owned.storage
  /-- The same kind of fence. -/
  acquireSync : frame.acquireSync.OwnedAs owned.acquireSync

/-- A frame that is accepted has storage and a fence that are. -/
theorem FrameDescriptor.validate_parts {frame : FrameDescriptor} (h : frame.validate = .ok ()) :
    frame.storage.validate = .ok () ∧
      ∀ file, frame.acquireSync = .syncFile file → decide (file.acquireFenceFd < 0) = false := by
  simp only [FrameDescriptor.validate, bind_ok, mapError_ok] at h
  obtain ⟨_, -, _, hstorage, _, -, hsync⟩ := h
  refine ⟨hstorage, fun file hfile => ?_⟩
  rw [hfile] at hsync
  cases hs : frame.storage with
  | binary storage =>
      rw [hs] at hsync
      cases hsync
  | dmaBuf descriptor =>
      rw [hs] at hsync
      exact refuse_ok.mp hsync

/-- What the duplication of storage comes to. -/
inductive StorageOutcome (K : Kernel File) (w : Files File) (storage : Storage) :
    Except DuplicateError OwnedStorage × Files File → Prop
  | done {owned : OwnedStorage} {w' : Files File}
      (h : Dups K w (storage.objects.map (·.fd)) owned.fds w') (howned : storage.OwnedAs owned) :
      StorageOutcome K w storage (.ok owned, w')
  | failed {before after : List Object} {object : Object} {source : IoError} {w' : Files File}
      (hobjects : storage.objects = before ++ object :: after)
      (h : DupsFail K w (before.map (·.fd)) object.fd source [] w') :
      StorageOutcome K w storage (.error (.duplicateObjectFd before.length object.fd source), w')

theorem forall₂_ownedObjects {objects : List Object} (hlength : made.length = objects.length) :
    List.Forall₂ (fun object owned => owned.size = object.size ∧ owned.modifier = object.modifier)
      objects (ownedObjects objects made) := by
  induction objects generalizing made with
  | nil =>
      rw [ownedObjects, List.zipWith_nil_left]
      exact .nil
  | cons object objects ih => cases made with
    | nil => cases hlength
    | cons x made => exact .cons ⟨rfl, rfl⟩ (ih (Nat.succ.inj hlength))

/-- The duplication of a descriptor that is accepted is that of its objects. -/
theorem exec_dmaBuf {descriptor : Descriptor} (hvalid : descriptor.validate = .ok ()) :
    ((Storage.dmaBuf descriptor).duplicateCloexec K).exec w =
      match (duplicateObjects (duplicateFdCloexec K) [] 0 descriptor.objects).exec w with
      | (.ok objects, w') =>
          (.ok (.dmaBuf ⟨descriptor.version, objects, descriptor.layers⟩), w')
      | (.error e, w') => (.error e, w') := by
  have hcheck : Effect.exec (checked descriptor.validate DuplicateError.invalidFrame) w =
      (.ok (), w) := by
    rw [hvalid]
    rfl
  simp only [Storage.duplicateCloexec, Descriptor.duplicateCloexec, Descriptor.duplicateWith,
    map_eq_pure_bind, Effect.exec_bind, hcheck]
  rcases (duplicateObjects (duplicateFdCloexec K) [] 0 descriptor.objects).exec w with ⟨_ | _, w'⟩
  · rfl
  · rfl

theorem storageOutcome {storage : Storage} (hvalid : storage.validate = .ok ()) :
    StorageOutcome K w storage ((storage.duplicateCloexec K).exec w) := by
  cases storage with
  | binary storage =>
      have hnone : Dups K w [] (OwnedStorage.binary storage).fds w := .nil
      exact .done hnone .binary
  | dmaBuf descriptor =>
      have hobjects : ObjectsOutcome K w [] 0 descriptor.objects _ := objectsOutcome
      rw [exec_dmaBuf hvalid]
      generalize (duplicateObjects (duplicateFdCloexec K) [] 0 descriptor.objects).exec w = result
        at hobjects ⊢
      cases hobjects with
      | @done made w' h =>
          have hlength : made.length = descriptor.objects.length := by
            rw [h.length, List.length_map]
          refine .done ?_ (.dmaBuf (forall₂_ownedObjects hlength))
          show Dups K w _ ((ownedObjects descriptor.objects made).map (·.fd)) w'
          rw [ownedObjects_fds hlength]
          exact h
      | failed hsplit h =>
          rw [Nat.zero_add]
          exact .failed hsplit h

/-- What the duplication of an acceptable fence comes to. -/
theorem exec_acquireSync {sync : AcquireSync}
    (hvalid : ∀ file, sync = .syncFile file → decide (file.acquireFenceFd < 0) = false) :
    (∃ owned w', (sync.duplicateCloexec K).exec w = (.ok owned, w') ∧
      Dups K w sync.fds owned.fds w' ∧ sync.OwnedAs owned) ∨
    ∃ fd source, sync.fds = [fd] ∧ K.dupFdCloexec w.file w.tried fd = .error source ∧
      (sync.duplicateCloexec K).exec w =
        (.error (.duplicateAcquireFence fd source), w.dupped fd (.error source)) := by
  cases sync with
  | implicit => exact .inl ⟨.implicit, w, rfl, .nil, .implicit⟩
  | syncFile file =>
      have hexec : ((AcquireSync.syncFile file).duplicateCloexec K).exec w =
          match K.dupFdCloexec w.file w.tried file.acquireFenceFd with
          | .ok x => (.ok (.syncFile x), w.dupped file.acquireFenceFd (.ok x))
          | .error e => (.error (.duplicateAcquireFence file.acquireFenceFd e),
              w.dupped file.acquireFenceFd (.error e)) := by
        have hcheck : Effect.exec (failWhen (decide (file.acquireFenceFd < 0))
            (DuplicateError.negativeAcquireFence file.acquireFenceFd)) w = (.ok (), w) := by
          rw [hvalid file rfl]
          rfl
        simp only [AcquireSync.duplicateCloexec, SyncFile.duplicateCloexec, map_eq_pure_bind,
          Effect.exec_bind, hcheck, Effect.exec_adapt, exec_duplicateFdCloexec]
        cases K.dupFdCloexec w.file w.tried file.acquireFenceFd <;> rfl
      cases hmade : K.dupFdCloexec w.file w.tried file.acquireFenceFd with
      | ok x =>
          rw [hmade] at hexec
          exact .inl ⟨.syncFile x, _, hexec, .cons hmade .nil, .syncFile⟩
      | error e =>
          rw [hmade] at hexec
          exact .inr ⟨file.acquireFenceFd, e, rfl, hmade, hexec⟩

/-- What the duplication of a frame comes to. -/
inductive FrameOutcome (K : Kernel File) (w : Files File) (frame : FrameDescriptor) :
    Except (Halt DuplicateError) OwnedFrame × Files File → Prop
  | invalid {e : ValidationError} (h : frame.validate = .error (.refused e)) :
      FrameOutcome K w frame (.error (.refused (.invalidFrame e)), w)
  | failed {before after : List Int32} {fd : Int32} {source : IoError} {w' : Files File}
      (hvalid : frame.validate = .ok ()) (hlent : frame.lent = before ++ fd :: after)
      (h : DupsFail K w before fd source [] w') :
      FrameOutcome K w frame (.error (.refused (frame.failure before.length fd source)), w')
  | done {owned : OwnedFrame} {w' : Files File} (hvalid : frame.validate = .ok ())
      (h : Dups K w frame.lent owned.fds w') (howned : frame.OwnedAs owned) :
      FrameOutcome K w frame (.ok owned, w')

theorem exec_drop {ε : Type} {storage : OwnedStorage} :
    (storage.drop : Effect (Files File) ε Unit).exec w = (.ok (), w.closeAll storage.fds) := by
  cases storage with
  | binary storage => rfl
  | dmaBuf descriptor => exact exec_dropObjects

/-- **A frame is refused as it is, or one of its descriptors is not duplicated and all
duplicates are closed, or all are duplicated.** -/
theorem frameOutcome (frame : FrameDescriptor) :
    FrameOutcome K w frame ((frame.duplicateCloexec K).exec w) := by
  rw [FrameDescriptor.duplicateCloexec]
  cases hvalid : frame.validate with
  | error halt => cases halt with
    | refused e => exact .invalid hvalid
    | crashed => exact absurd hvalid frame.validate_ne_crashed
  | ok u =>
      obtain ⟨hstorage, hfence⟩ := frame.validate_parts hvalid
      have hcheck : Effect.exec (checked (.ok u) DuplicateError.ofHalt) w = (.ok (), w) := rfl
      have houtcome : StorageOutcome K w frame.storage _ := storageOutcome hstorage
      simp only [Effect.exec_bind, hcheck, Effect.exec_adapt]
      generalize (frame.storage.duplicateCloexec K).exec w = result at houtcome ⊢
      cases houtcome with
      | @failed before after object source w' hobjects h =>
          have hlent : frame.lent = before.map (·.fd) ++
              object.fd :: (after.map (·.fd) ++ frame.acquireSync.fds) := by
            simp [FrameDescriptor.lent, hobjects]
          have hfailure : frame.failure (before.map (·.fd)).length object.fd source =
              .duplicateObjectFd before.length object.fd source := by
            simp [FrameDescriptor.failure, hobjects]
          have hframe := FrameOutcome.failed hvalid hlent h
          rwa [hfailure] at hframe
      | @done storage w' h howned =>
          rcases exec_acquireSync hfence with
            ⟨sync, w'', hsync, hdups, hsyncOwned⟩ | ⟨fd, source, hfds, herror, hsync⟩
          · have hadapt : Effect.exec (ExceptT.adapt Halt.refused
                (frame.acquireSync.duplicateCloexec K)) w' = (.ok sync, w'') := by
              rw [Effect.exec_adapt, hsync]
              rfl
            dsimp only [Except.mapError]
            rw [Effect.exec_onFailure_ok hadapt]
            exact .done hvalid (h.append hdups) ⟨rfl, rfl, rfl, howned, hsyncOwned⟩
          · have hadapt : Effect.exec (ExceptT.adapt Halt.refused
                (frame.acquireSync.duplicateCloexec K)) w' =
                  (.error (.refused (.duplicateAcquireFence fd source)),
                    w'.dupped fd (.error source)) := by
              rw [Effect.exec_adapt, hsync]
              rfl
            dsimp only [Except.mapError]
            rw [Effect.exec_onFailure_error hadapt exec_drop]
            have hlent : frame.lent = frame.storage.objects.map (·.fd) ++ fd :: [] := by
              rw [FrameDescriptor.lent, hfds]
            have hfailure : frame.failure (frame.storage.objects.map (·.fd)).length fd source =
                .duplicateAcquireFence fd source := by
              simp [FrameDescriptor.failure]
            have hframe := FrameOutcome.failed hvalid hlent ⟨_, w', h, herror, rfl⟩
            rwa [hfailure] at hframe

/-! ## All or nothing -/

/-- Everything a call has made is closed, once, and nothing else is.  The table is what it
was. -/
structure NothingKept (before after : Files File) : Prop where
  /-- What was made was closed once. -/
  closed : ∀ fd x, .dup fd (.ok x) ∈ after.events → after.events.countP (·.closes x) = 1
  /-- Nothing else was closed. -/
  own : ∀ x, .close x ∈ after.events → ∃ fd, .dup fd (.ok x) ∈ after.events
  /-- What was open was not closed. -/
  lent : ∀ fd, (before.file fd).isSome = true → after.events.countP (·.closes fd) = 0
  /-- The table is as before. -/
  file : after.file = before.file

/-- The error of a frame names its fault if nothing was tried, and else the first
descriptor that was not duplicated. -/
inductive Blames (frame : FrameDescriptor) : Halt DuplicateError → List FdEvent → Prop
  | invalid {e : ValidationError} (h : frame.validate = .error (.refused e)) :
      Blames frame (.refused (.invalidFrame e)) []
  | failed {made : List Int32} {fd : Int32} {source : IoError} {closes : List FdEvent}
      (hvalid : frame.validate = .ok ()) (hfd : frame.lent[made.length]? = some fd)
      (hcloses : ∀ e ∈ closes, ∃ x, e = .close x) :
      Blames frame (.refused (frame.failure made.length fd source))
        (closes ++ .dup fd (.error source) :: dupEvents (frame.lent.take made.length) made)

/-- An owned frame is what was lent, with one duplicate for each descriptor. -/
structure Duplicated (frame : FrameDescriptor) (before : Files File) (owned : OwnedFrame)
    (after : Files File) : Prop where
  /-- The frame is valid. -/
  valid : frame.validate = .ok ()
  /-- The owned frame is the frame but for its descriptors. -/
  unchanged : frame.OwnedAs owned
  /-- One descriptor was made of each lent one. -/
  length : owned.fds.length = frame.lent.length
  /-- The calls are these duplications, in order. -/
  events : after.events = dupEvents frame.lent owned.fds
  /-- Each stands for the file of the one it was made of. -/
  file : ∀ (i : Nat) (fd x : Int32), frame.lent[i]? = some fd → owned.fds[i]? = some x →
    (before.file fd).isSome = true → after.file x = before.file fd
  /-- They are distinct and were not open. -/
  fresh : owned.fds.Nodup ∧ ∀ x ∈ owned.fds, before.file x = none
  /-- No other descriptor changed. -/
  others : ∀ fd, fd ∉ owned.fds → after.file fd = before.file fd

theorem mem_dupEvents {e : FdEvent} :
    e ∈ dupEvents sources made ↔ ∃ fd x, (fd, x) ∈ sources.zip made ∧ e = .dup fd (.ok x) := by
  simp only [dupEvents, List.mem_reverse, List.mem_map, Prod.exists, eq_comm]

theorem exists_dup {x : Int32} (hlength : made.length = sources.length) (hx : x ∈ made) :
    ∃ fd, .dup fd (.ok x) ∈ dupEvents sources made := by
  rw [← List.map_snd_zip hlength.le] at hx
  obtain ⟨⟨fd, x⟩, hmem, rfl⟩ := List.mem_map.mp hx
  exact ⟨fd, mem_dupEvents.mpr ⟨fd, x, hmem, rfl⟩⟩

theorem count_closes_dupEvents {x : Int32} :
    (dupEvents sources made).countP (·.closes x) = 0 := by
  refine List.countP_eq_zero.mpr fun e he => ?_
  obtain ⟨fd, y, -, rfl⟩ := mem_dupEvents.mp he
  exact Bool.false_ne_true

theorem count_closes_close {fds : List Int32} {x : Int32} :
    (fds.map FdEvent.close).reverse.countP (·.closes x) = fds.count x := by
  rw [List.countP_reverse, List.countP_map]
  refine List.countP_congr fun y _ => ?_
  simp [FdEvent.closes]

theorem DupsFail.nothingKept {source : IoError} {before : List Int32}
    (h : DupsFail K w before fd source [] w') (hw : w.events = []) : NothingKept w w' := by
  obtain ⟨made, w'', hdups, -, rfl⟩ := h
  rw [List.nil_append]
  have hevents : ((w''.dupped fd (.error source)).closeAll made).events =
      (made.map FdEvent.close).reverse ++ .dup fd (.error source) :: dupEvents before made := by
    rw [closeAll_events]
    show _ ++ FdEvent.dup fd (.error source) :: w''.events = _
    rw [hdups.events, hw, List.append_nil]
  have hcount (x : Int32) : ((w''.dupped fd (.error source)).closeAll made).events.countP
      (·.closes x) = made.count x := by
    rw [hevents, List.countP_append, count_closes_close,
      List.countP_cons_of_neg Bool.false_ne_true, count_closes_dupEvents, Nat.add_zero]
  have hmade {fd' x : Int32} (hmem : FdEvent.dup fd' (.ok x) ∈
      ((w''.dupped fd (.error source)).closeAll made).events) : x ∈ made := by
    rw [hevents] at hmem
    rcases List.mem_append.mp hmem with hmem | hmem
    · obtain ⟨y, -, hy⟩ := List.mem_map.mp (List.mem_reverse.mp hmem)
      cases hy
    · rcases List.mem_cons.mp hmem with hmem | hmem
      · cases hmem
      · obtain ⟨fd'', y, hzip, heq⟩ := mem_dupEvents.mp hmem
        cases heq
        exact (List.of_mem_zip hzip).2
  constructor
  case closed =>
    intro fd' x hmem
    rw [hcount, hdups.nodup.count, if_pos (hmade hmem)]
  case own =>
    intro x hmem
    have hx : x ∈ made := by
      rw [← List.count_pos_iff, ← hcount]
      exact List.countP_pos_iff.mpr ⟨_, hmem, decide_eq_true rfl⟩
    obtain ⟨fd', hdup⟩ := exists_dup hdups.length hx
    rw [hevents]
    exact ⟨fd', List.mem_append_right _ (List.mem_cons_of_mem _ hdup)⟩
  case lent =>
    intro fd' hopen
    rw [hcount]
    refine List.count_eq_zero_of_not_mem fun hmem => ?_
    rw [hdups.free hmem] at hopen
    cases hopen
  case file =>
    funext y
    rw [closeAll_file]
    show (if y ∈ made then none else w''.file y) = w.file y
    split
    · next hy => exact (hdups.free hy).symm
    · next hy => exact hdups.file_of_notMem hy

theorem DupsFail.blames {frame : FrameDescriptor} {source : IoError} {before after : List Int32}
    (h : DupsFail K w before fd source [] w') (hw : w.events = [])
    (hvalid : frame.validate = .ok ())
    (hlent : frame.lent = before ++ fd :: after) :
    Blames frame (.refused (frame.failure before.length fd source)) w'.events := by
  obtain ⟨made, w'', hdups, -, rfl⟩ := h
  have hevents : ((w''.dupped fd (.error source)).closeAll ([] ++ made)).events =
      (made.map FdEvent.close).reverse ++
        .dup fd (.error source) :: dupEvents (frame.lent.take made.length) made := by
    rw [closeAll_events, hdups.length, hlent, List.take_left]
    show _ ++ FdEvent.dup fd (.error source) :: w''.events = _
    rw [hdups.events, hw, List.append_nil]
    rfl
  rw [hevents, ← hdups.length]
  refine .failed hvalid ?_ ?_
  · rw [hdups.length, hlent]
    simp
  · intro e he
    obtain ⟨x, -, rfl⟩ := List.mem_map.mp (List.mem_reverse.mp he)
    exact ⟨x, rfl⟩

end

/-- **The duplication of a frame is all or nothing.** -/
theorem duplicate_cloexec_all_or_nothing (K : Kernel File) (frame : FrameDescriptor)
    (file : Int32 → Option File) (tried : Nat) :
    match (frame.duplicateCloexec K).exec ⟨file, tried, []⟩ with
    | (.ok owned, after) => Duplicated frame ⟨file, tried, []⟩ owned after
    | (.error e, after) => NothingKept ⟨file, tried, []⟩ after ∧ Blames frame e after.events := by
  have houtcome : FrameOutcome K ⟨file, tried, []⟩ frame _ := frameOutcome frame
  generalize (frame.duplicateCloexec K).exec ⟨file, tried, []⟩ = result at houtcome ⊢
  cases houtcome with
  | invalid h =>
      refine ⟨⟨?_, ?_, ?_, rfl⟩, .invalid h⟩
      · exact fun _ _ hmem => absurd hmem List.not_mem_nil
      · exact fun _ hmem => absurd hmem List.not_mem_nil
      · exact fun _ _ => rfl
  | failed hvalid hlent h => exact ⟨h.nothingKept rfl, h.blames rfl hvalid hlent⟩
  | done hvalid h howned =>
      exact ⟨hvalid, howned, h.length, by rw [h.events, List.append_nil],
        fun i fd x hfd hx hopen => h.file_made hfd hx hopen, ⟨h.nodup, fun x hx => h.free hx⟩,
        fun fd hfd => h.file_of_notMem hfd⟩

/-- Duplicates are numbered from 100 on, and one fails. -/
def sampleDup (failing : Nat) (file : Int32 → Option Unit) (tried : Nat) (fd : Int32) :
    Except IoError Int32 :=
  if tried ≠ failing ∧ (file fd).isSome ∧ file (100 + Int32.ofNat tried) = none ∧
      0 ≤ 100 + Int32.ofNat tried then .ok (100 + Int32.ofNat tried)
  else .error ⟨24⟩

theorem sampleDup_ok {failing : Nat} {file : Int32 → Option Unit} {tried : Nat} {fd made : Int32}
    (h : sampleDup failing file tried fd = .ok made) :
    (file fd).isSome ∧ file made = none ∧ 0 ≤ made := by
  rw [sampleDup] at h
  split at h
  · next hc =>
      cases h
      exact hc.2
  · cases h

/-- A kernel that makes the next descriptors and fails at one of them. -/
def sampleKernel (failing : Nat) : Kernel Unit where
  dupFdCloexec := sampleDup failing
  opened _ _ _ _ h := (sampleDup_ok h).1
  free _ _ _ _ h := (sampleDup_ok h).2.1
  nonneg _ _ _ _ h := (sampleDup_ok h).2.2

/-- Two objects that share a descriptor. -/
def sampleAliased : FrameDescriptor where
  codedWidth := 64
  codedHeight := 16
  visibleRect := ⟨0, 0, 64, 16⟩
  storage := .dmaBuf ⟨1, [⟨3, 4096, .implicit⟩, ⟨3, 4096, .implicit⟩],
    [⟨0x34325258, [⟨0, 0, 256⟩, ⟨1, 0, 256⟩]⟩]⟩
  acquireSync := .implicit

/-- A frame whose second duplicate fails keeps nothing, and the error names the object. -/
theorem duplicate_cloexec_all_or_nothing_sample : ∃ e after,
    (sampleAliased.duplicateCloexec (sampleKernel 1)).exec
        ⟨fun fd => if fd = 3 then some () else none, 0, []⟩ = (.error e, after) ∧
      after.events = [.close 100, .dup 3 (.error ⟨24⟩), .dup 3 (.ok 100)] ∧
      NothingKept ⟨fun fd => if fd = 3 then some () else none, 0, []⟩ after ∧
      Blames sampleAliased e after.events := by
  have hall := duplicate_cloexec_all_or_nothing (sampleKernel 1) sampleAliased
    (fun fd => if fd = 3 then some () else none) 0
  have hevents : ((sampleAliased.duplicateCloexec (sampleKernel 1)).exec
      ⟨fun fd => if fd = 3 then some () else none, 0, []⟩).2.events =
        [.close 100, .dup 3 (.error ⟨24⟩), .dup 3 (.ok 100)] := by decide +kernel
  have hfails : ((sampleAliased.duplicateCloexec (sampleKernel 1)).exec
      ⟨fun fd => if fd = 3 then some () else none, 0, []⟩).1.isOk = false := by decide +kernel
  generalize (sampleAliased.duplicateCloexec (sampleKernel 1)).exec _ =
    result at hall hevents hfails
  obtain ⟨outcome, after⟩ := result
  cases outcome with
  | ok _ => cases hfails
  | error e => exact ⟨e, after, rfl, hevents, hall⟩

end VideoInterop.Native
