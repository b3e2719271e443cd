import Mathlib.Data.List.Perm.Subperm
import VideoInterop.LeaseOwner.Coupling

/-!
# What a lease owner is for

`Ledger` is the part of an owner that decides what becomes of the backend
tokens, and `Ledger.Step` the few deeds it consists of: room is reserved and
given up, a token is accepted, gets and loses holders, waits for its release,
is released or not.  It knows no message and no monitor.

The results about its traces are the purpose of the component, in its own
terms: no more tokens than the capacity, every accepted token in the books
until its release succeeds, releases first in first out and one at a time.
-/

namespace VideoInterop.LeaseOwner

/-- The tokens an owner answers for, and the release queue. -/
structure Ledger where
  /-- The most leases and reservations, `none` for no limit. -/
  capacity : Option Nat
  /-- Open or draining. -/
  mode : Mode
  /-- The reservations by request. -/
  reservations : FMap Ref Reservation
  /-- The leases by token. -/
  leases : FMap Ref Entry
  /-- The attempts at releases. -/
  queue : SerialQueue Ref Attempt
  /-- The executor they are sent to. -/
  executor : Pid

/-- The ledger of an owner's state. -/
def State.ledger (s : State) : Ledger where
  capacity := s.maxActive
  mode := s.mode
  reservations := s.issueReservations
  leases := s.leases
  queue := serialQueue s
  executor := s.releaseExecutor

/-- One change of the ledger. -/
inductive Deed where
  /-- A reservation is made. -/
  | reserve (requestRef : Ref)
  /-- A reservation is given up. -/
  | vacate (requestRef : Ref)
  /-- A lease is made of a reservation and a backend token. -/
  | accept (requestRef token : Ref) (backendToken : Term)
  /-- A lease gets a holder. -/
  | hold (token holder : Ref)
  /-- A lease changes and stays active. -/
  | amend (token : Ref)
  /-- A release is queued. -/
  | enqueue (token : Ref) (attempt : Attempt)
  /-- A release is sent to an executor. -/
  | execute (executor : Pid) (token : Ref) (attempt : Attempt)
  /-- A release has succeeded or failed. -/
  | close (closing : Closing)
  /-- There is a new executor. -/
  | replace (executor : Pid)
  /-- Nothing is admitted any more. -/
  | drain

namespace Ledger

/-- What a deed needs and does. -/
inductive Step : Ledger → Deed → Ledger → Prop where
  | reserve {L requestRef r} (hmode : L.mode = .open)
      (hroom : ∀ n, L.capacity = some n → L.leases.size + L.reservations.size < n) :
      Step L (.reserve requestRef) { L with reservations := L.reservations.put requestRef r }
  | vacate {L requestRef} :
      Step L (.vacate requestRef) { L with reservations := L.reservations.delete requestRef }
  /-- A reservation becomes a lease. -/
  | accept {L requestRef r token entry} (hr : L.reservations.fetch requestRef = some r)
      (hfresh : L.leases.fetch token = none) (hactive : entry.status = .active) :
      Step L (.accept requestRef token entry.backendToken)
        { L with
          reservations := L.reservations.delete requestRef
          leases := L.leases.put token entry }
  | hold {L token holder entry entry'} (hmode : L.mode = .open)
      (hentry : L.leases.fetch token = some entry) (hactive : entry.status = .active)
      (hholders : entry'.holders = insert holder entry.holders)
      (htoken : entry'.backendToken = entry.backendToken) (hactive' : entry'.status = .active) :
      Step L (.hold token holder) { L with leases := L.leases.put token entry' }
  /-- An active lease may lose holders. -/
  | amend {L token entry entry'} (hentry : L.leases.fetch token = some entry)
      (hactive : entry.status = .active) (hholders : entry'.holders ⊆ entry.holders)
      (htoken : entry'.backendToken = entry.backendToken) (hactive' : entry'.status = .active) :
      Step L (.amend token) { L with leases := L.leases.put token entry' }
  | enqueue {L token generation entry entry'} (hentry : L.leases.fetch token = some entry)
      (hstatus : entry.status = .active ∨ ∃ reason, entry.status = .releaseFailed reason)
      (hholders : entry'.holders = ∅) (htoken : entry'.backendToken = entry.backendToken)
      (hqueued : entry'.status = .releaseQueued generation) :
      Step L (.enqueue token (generation, entry.backendToken))
        { L with
          leases := L.leases.put token entry'
          queue := L.queue.enqueue token (generation, entry.backendToken) }
  /-- No token is released while it has a holder. -/
  | execute {L token attempt rest entry} (hidle : L.queue.running = none)
      (hline : L.queue.waiting = (token, attempt) :: rest)
      (hentry : L.leases.fetch token = some entry) (hholders : entry.holders = ∅)
      (htoken : entry.backendToken = attempt.2) :
      Step L (.execute L.executor token attempt)
        { L with
          leases := L.leases.put token { entry with status := .releasing attempt.1 }
          queue := ⟨some (token, attempt), rest⟩ }
  | succeed {L token attempt value entry} (hrun : L.queue.running = some (token, attempt))
      (hentry : L.leases.fetch token = some entry) (hstatus : entry.status = .releasing attempt.1)
      (htoken : entry.backendToken = attempt.2) :
      Step L (.close ⟨L.executor, token, attempt.1, attempt.2, .succeeded value⟩)
        { L with leases := L.leases.delete token, queue := L.queue.finish }
  | fail {L token attempt reason entry} (hrun : L.queue.running = some (token, attempt))
      (hentry : L.leases.fetch token = some entry) (hstatus : entry.status = .releasing attempt.1)
      (htoken : entry.backendToken = attempt.2) :
      Step L (.close ⟨L.executor, token, attempt.1, attempt.2, .failed reason⟩)
        { L with
          leases := L.leases.put token { entry with status := .releaseFailed reason }
          queue := L.queue.finish }
  /-- A new executor, once the old one holds no job. -/
  | replace {L executor} (hidle : L.queue.running = none) :
      Step L (.replace executor) { L with executor := executor }
  | drain {L} : Step L .drain { L with mode := .draining }

variable {L L' : Ledger} {deeds : List Deed}

/-! ## Capacity -/

/-- Leases and reservations stay within the capacity. -/
def Within (L : Ledger) : Prop :=
  ∀ n, L.capacity = some n → L.leases.size + L.reservations.size ≤ n

theorem Within.step {deed : Deed} (h : L.Within) (hst : Step L deed L') : L'.Within := by
  intro n hn
  cases hst with
  | reserve hmode hroom =>
      have := hroom n hn
      have := L.reservations.size_put_le ‹Ref› ‹Reservation›
      simp only
      omega
  | vacate =>
      have := h n hn
      have := L.reservations.size_delete_le ‹Ref›
      simp only
      omega
  | @accept requestRef r token entry hr hfresh hactive =>
      have := h n hn
      have := FMap.size_delete_of_some hr
      have := FMap.size_put_of_none (v := entry) hfresh
      simp only
      omega
  | hold hmode hentry _ _ _ _ =>
      simpa only [FMap.size_put_of_some _ hentry] using h n hn
  | amend hentry _ _ _ _ => simpa only [FMap.size_put_of_some _ hentry] using h n hn
  | enqueue hentry _ _ _ _ => simpa only [FMap.size_put_of_some _ hentry] using h n hn
  | execute _ _ hentry _ _ => simpa only [FMap.size_put_of_some _ hentry] using h n hn
  | @succeed token _ _ _ _ hentry _ _ =>
      have := h n hn
      have := L.leases.size_delete_le token
      simp only
      omega
  | fail _ hentry _ _ => simpa only [FMap.size_put_of_some _ hentry] using h n hn
  | replace _ => exact h n hn
  | drain => exact h n hn

theorem Step.capacity {deed : Deed} (hst : Step L deed L') : L'.capacity = L.capacity := by
  cases hst <;> rfl

/-! ## Books -/

/-- The tokens in the books: each lease with its backend token. -/
def books (L : Ledger) : Multiset (Ref × Term) :=
  L.leases.entries.map fun e => (e.1, e.2.backendToken)

end Ledger

/-- The token a deed accepts. -/
def Deed.accepted : Deed → Option (Ref × Term)
  | .accept _ token backendToken => some (token, backendToken)
  | _ => none

/-- The attempt a deed ends. -/
def Deed.closed : Deed → Option Closing
  | .close closing => some closing
  | _ => none

/-- The token whose release succeeded. -/
def Closing.released (c : Closing) : Option (Ref × Term) :=
  match c.ending with
  | .succeeded _ => some (c.token, c.backendToken)
  | .failed _ => none

/-- The attempt that ended, with its executor. -/
def Closing.attempt (c : Closing) : Pid × Ref × Attempt :=
  (c.executor, c.token, c.generation, c.backendToken)

/-- The attempt a deed starts. -/
def Deed.executed : Deed → Option (Pid × Ref × Attempt)
  | .execute executor token attempt => some (executor, token, attempt)
  | _ => none

/-- The attempt a deed queues. -/
def Deed.enqueued : Deed → Option (Ref × Attempt)
  | .enqueue token attempt => some (token, attempt)
  | _ => none

namespace Ledger

theorem books_put_of_some {leases : FMap Ref Entry} {token : Ref} {entry entry' : Entry}
    (hentry : leases.fetch token = some entry) (htoken : entry'.backendToken = entry.backendToken) :
    ((leases.put token entry').entries.map fun e => (e.1, e.2.backendToken)).Perm
      (leases.entries.map fun e => (e.1, e.2.backendToken)) := by
  rw [FMap.entries_put]
  have h := (FMap.entries_perm_of_some hentry).map fun e => (e.1, e.2.backendToken)
  simp only [List.map_cons, htoken] at h ⊢
  exact h.symm

/-- One deed moves a token into the books or out of them, or neither. -/
theorem books_step {deed : Deed} (hst : Step L deed L') :
    L'.books + ((deed.closed.bind Closing.released).toList : Multiset (Ref × Term)) =
      L.books + (deed.accepted.toList : Multiset (Ref × Term)) := by
  have same {leases : FMap Ref Entry} {token : Ref} {entry entry' : Entry}
      (hentry : leases.fetch token = some entry)
      (htoken : entry'.backendToken = entry.backendToken) :
      (((leases.put token entry').entries.map fun e => (e.1, e.2.backendToken) :
          List (Ref × Term)) : Multiset (Ref × Term)) =
        (leases.entries.map fun e => (e.1, e.2.backendToken) : List (Ref × Term)) :=
    Quot.sound (books_put_of_some hentry htoken)
  cases hst with
  | reserve _ _ => rfl
  | vacate => rfl
  | @accept requestRef r token entry hr hfresh hactive =>
      simp only [books, Deed.closed, Deed.accepted, FMap.entries_put, FMap.delete_of_none hfresh,
        Option.bind_none, Option.toList, List.map_cons, ← Multiset.cons_coe]
      rw [Multiset.coe_nil, add_zero, Multiset.cons_zero, add_comm, Multiset.singleton_add]
  | hold _ hentry _ _ htoken _ => exact congrArg (· + 0) (same hentry htoken)
  | amend hentry _ _ htoken _ => exact congrArg (· + 0) (same hentry htoken)
  | enqueue hentry _ _ htoken _ => exact congrArg (· + 0) (same hentry htoken)
  | execute _ _ hentry _ _ => exact congrArg (· + 0) (same hentry rfl)
  | succeed _ hentry _ htoken =>
      have h := (FMap.entries_perm_of_some hentry).map fun e => (e.1, e.2.backendToken)
      simp only [books, htoken, Deed.closed, Deed.accepted, Closing.released, Option.bind_some,
        Option.toList, List.map_cons] at h ⊢
      rw [Multiset.coe_eq_coe.mpr h, ← Multiset.cons_coe, ← Multiset.cons_coe, Multiset.coe_nil,
        add_zero, Multiset.cons_zero, add_comm, Multiset.singleton_add]
  | fail _ hentry _ _ => exact congrArg (· + 0) (same hentry rfl)
  | replace _ => rfl
  | drain => rfl

/-- **The books balance**: what was accepted is in the books or was released. -/
theorem books_trace (h : Trace Step L deeds L') :
    L'.books + (deeds.filterMap fun deed => deed.closed.bind Closing.released : List (Ref × Term)) =
      L.books + (deeds.filterMap Deed.accepted : List (Ref × Term)) :=
  h.balance fun _ _ _ => books_step

end Ledger

/-! ## The release queue -/

/-- What a deed does to the queue. -/
def Deed.op : Deed → Option (SerialQueue.Op Ref Attempt)
  | .enqueue token attempt => some (.enqueue (token, attempt))
  | .execute _ token attempt => some (.start (token, attempt))
  | .close c => some (.finish (c.token, c.generation, c.backendToken))
  | _ => none

namespace Ledger

theorem queue_trace (h : Trace Step L deeds L') :
    Trace SerialQueue.Step L.queue (deeds.filterMap Deed.op) L'.queue := by
  refine h.project (f := Ledger.queue) ?_ ?_
  · intro L deed L' op hst hop
    cases hst with
    | enqueue => cases hop; exact .enqueue
    | execute hidle hline => cases hop; exact .start hidle hline
    | succeed hrun => cases hop; exact .finish hrun
    | fail hrun => cases hop; exact .finish hrun
    | _ => cases hop
  · intro L deed L' hst hop
    cases hst with
    | enqueue => cases hop
    | execute => cases hop
    | succeed => cases hop
    | fail => cases hop
    | _ => rfl

/-- The attempts started and then the line are the old line and then the attempts
queued, in order. -/
theorem fifo (h : Trace Step L deeds L') :
    (deeds.filterMap Deed.executed).map Prod.snd ++ L'.queue.waiting =
      L.queue.waiting ++ deeds.filterMap Deed.enqueued := by
  have hstarted : (fun deed : Deed => deed.op.bind SerialQueue.Op.started) =
      fun deed => deed.executed.map Prod.snd := by
    funext deed
    cases deed <;> rfl
  have henqueued : (fun deed : Deed => deed.op.bind SerialQueue.Op.enqueued) = Deed.enqueued := by
    funext deed
    cases deed <;> rfl
  have hfifo := SerialQueue.fifo (queue_trace h)
  rwa [List.filterMap_filterMap, List.filterMap_filterMap, hstarted, henqueued,
    ← List.map_filterMap] at hfifo

/-- The attempt that runs, with its executor. -/
def outstanding (L : Ledger) : List (Pid × Ref × Attempt) :=
  L.queue.running.toList.map fun job => (L.executor, job)

/-- The attempts ended and then the one that runs are the old one and then the
attempts started, in order: no executor ever holds two. -/
theorem one_at_a_time (h : Trace Step L deeds L') :
    (deeds.filterMap Deed.closed).map Closing.attempt ++ L'.outstanding =
      L.outstanding ++ deeds.filterMap Deed.executed := by
  induction h with
  | nil => simp
  | cons hst _ ih =>
      cases hst with
      | execute hidle hline =>
          simpa [List.filterMap_cons, Deed.executed, Deed.closed,
            Closing.attempt, outstanding, hidle] using ih
      | succeed hrun =>
          simpa [List.filterMap_cons, Deed.executed, Deed.closed,
            Closing.attempt, outstanding, hrun,
            SerialQueue.finish] using ih
      | fail hrun =>
          simpa [List.filterMap_cons, Deed.executed, Deed.closed,
            Closing.attempt, outstanding, hrun,
            SerialQueue.finish] using ih
      | replace hidle =>
          simpa [List.filterMap_cons, Deed.executed, Deed.closed,
            Closing.attempt, outstanding, hidle] using ih
      | _ =>
          simpa [List.filterMap_cons, Deed.executed, Deed.closed, Closing.attempt, outstanding,
            SerialQueue.enqueue] using ih

/-! ## Draining -/

/-- What a draining ledger may come to: fewer reservations, fewer holders, and
leases for tokens that were accepted. -/
structure Winds (L : Ledger) (tokens : List (Ref × Term)) (L' : Ledger) : Prop where
  /-- It drains. -/
  mode : L'.mode = .draining
  /-- No reservation is new. -/
  reservations : ∀ requestRef r, L'.reservations.fetch requestRef = some r →
    L.reservations.fetch requestRef = some r
  /-- No lease is new, and none has more holders. -/
  leases : ∀ token entry', L'.leases.fetch token = some entry' →
    (∃ entry, L.leases.fetch token = some entry ∧ entry'.holders ⊆ entry.holders) ∨
      ∃ backendToken, (token, backendToken) ∈ tokens

theorem winds_put {L : Ledger} {token : Ref} {entry entry' : Entry}
    (hentry : L.leases.fetch token = some entry) (hholders : entry'.holders ⊆ entry.holders)
    (other : Ref) (e : Entry) (he : (L.leases.put token entry').fetch other = some e) :
    (∃ entry, L.leases.fetch other = some entry ∧ e.holders ⊆ entry.holders) ∨
      ∃ backendToken, (other, backendToken) ∈ ([] : List (Ref × Term)) := by
  rw [FMap.fetch_put] at he
  split at he
  · next heq =>
      cases he
      exact .inl ⟨entry, heq ▸ hentry, hholders⟩
  · exact .inl ⟨e, he, Finset.Subset.refl _⟩

theorem winds_step {deed : Deed} (hmode : L.mode = .draining) (hst : Step L deed L') :
    Winds L deed.accepted.toList L' := by
  have same (token : Ref) (entry : Entry) (hentry : L.leases.fetch token = some entry) :
      (∃ entry₀, L.leases.fetch token = some entry₀ ∧ entry.holders ⊆ entry₀.holders) ∨
        ∃ backendToken, (token, backendToken) ∈ ([] : List (Ref × Term)) :=
    .inl ⟨entry, hentry, Finset.Subset.refl _⟩
  cases hst with
  | reserve hopen => simp [hmode] at hopen
  | hold hopen => simp [hmode] at hopen
  | vacate =>
      refine ⟨hmode, fun requestRef r hr => ?_, same⟩
      rw [FMap.fetch_delete] at hr
      split at hr
      · cases hr
      · exact hr
  | @accept requestRef r token entry hr hfresh hactive =>
      refine ⟨hmode, fun requestRef r hr => ?_, fun other e he => ?_⟩
      · rw [FMap.fetch_delete] at hr
        split at hr
        · cases hr
        · exact hr
      · rw [FMap.fetch_put] at he
        split at he
        · next heq => exact .inr ⟨entry.backendToken, by simp [Deed.accepted, heq]⟩
        · exact .inl ⟨e, he, Finset.Subset.refl _⟩
  | amend hentry _ hholders _ _ => exact ⟨hmode, fun _ _ h => h, winds_put hentry hholders⟩
  | enqueue hentry _ hholders _ _ =>
      exact ⟨hmode, fun _ _ h => h, winds_put hentry (by simp [hholders])⟩
  | execute _ _ hentry _ _ =>
      refine ⟨hmode, fun _ _ h => h, winds_put hentry ?_⟩
      exact Finset.Subset.refl _
  | succeed _ _ _ _ =>
      refine ⟨hmode, fun _ _ h => h, fun other e he => ?_⟩
      rw [FMap.fetch_delete] at he
      split at he
      · cases he
      · exact .inl ⟨e, he, Finset.Subset.refl _⟩
  | fail _ hentry _ _ =>
      refine ⟨hmode, fun _ _ h => h, winds_put hentry ?_⟩
      exact Finset.Subset.refl _
  | replace _ => exact ⟨hmode, fun _ _ h => h, same⟩
  | drain => exact ⟨rfl, fun _ _ h => h, same⟩

/-- **A draining ledger only winds down.** -/
theorem draining_trace (h : Trace Step L deeds L') (hmode : L.mode = .draining) :
    Winds L (deeds.filterMap Deed.accepted) L' := by
  induction h with
  | nil => exact ⟨hmode, fun _ _ h => h, fun _ e he => .inl ⟨e, he, Finset.Subset.refl _⟩⟩
  | @cons L deed M deeds L' hst _ ih =>
      have hone := winds_step hmode hst
      have hrest := ih hone.mode
      have hcons : (deed :: deeds).filterMap Deed.accepted =
          deed.accepted.toList ++ deeds.filterMap Deed.accepted := by
        cases ha : deed.accepted <;> simp [ha]
      refine ⟨hrest.mode, fun requestRef r hr => hone.reservations _ _ (hrest.reservations _ _ hr),
        fun token e he => ?_⟩
      rw [hcons]
      rcases hrest.leases token e he with ⟨e₁, he₁, hsub⟩ | ⟨backendToken, hmem⟩
      · rcases hone.leases token e₁ he₁ with ⟨e₀, he₀, hsub₀⟩ | ⟨backendToken, hmem⟩
        · exact .inl ⟨e₀, he₀, hsub.trans hsub₀⟩
        · exact .inr ⟨backendToken, List.mem_append_left _ hmem⟩
      · exact .inr ⟨backendToken, List.mem_append_right _ hmem⟩

end Ledger

end VideoInterop.LeaseOwner
