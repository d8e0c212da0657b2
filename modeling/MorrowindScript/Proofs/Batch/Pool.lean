import MorrowindScript.Batch
import Mathlib.Algebra.Order.Ring.Nat
import Mathlib.Logic.Relation

/-!
# A batch on several workers

A batch is run by a pool: a feeder puts the items into a queue, workers take them from there, apply
a function and put reports into a second queue, and a collector puts the reports into one slot per
item. The queues are bounded, so that everybody may have to wait for somebody else, and the batch
may be canceled at any moment. A worker looks for the cancellation once per item, before it calls
the function; the feeder may stop or go on feeding once the batch is canceled.

The module introduces:

* `Batch.Pool` — a state of the pool.
* `Batch.Step` — what the members of the pool can do next. They take turns in any order.
* `Batch.Reachable` — the states of a pool that was started on some items.
* `Batch.Pool.work` — how much there is left to do, which every step makes less.
* `Batch.exists_returned` — a pool can always go on until it returns.
-/

namespace MorrowindScript.Batch

/-! ## Members and their states -/

/-- An item of a batch and its place among the items. -/
structure Job (α : Type) where
  /-- The place of the item. -/
  index : Nat
  /-- The item. -/
  item : α

/-- What is reported for an item. -/
structure Report (β : Type) where
  /-- The place of the item. -/
  index : Nat
  /-- What became of the item. A report with no result has no error either. -/
  result : Option (JobResult β)

/-- A worker. -/
inductive Worker (α β : Type) where
  /-- Waits for a job. -/
  | waiting
  /-- Has taken a job, and did not look for a cancellation yet. -/
  | holding (job : Job α)
  /-- Found no cancellation, and is about to call the function. -/
  | running (job : Job α)
  /-- Has a report, and waits for room in the queue. -/
  | sending (report : Report β)
  /-- Found the queue of jobs closed and empty. -/
  | exited

/-- A state of a pool. -/
structure Pool (α β : Type) where
  /-- The batch was canceled. -/
  canceled : Bool
  /-- The jobs that the feeder did not feed yet. -/
  pending : List (Job α)
  /-- The feeder did not close the queue of jobs yet. -/
  feeding : Bool
  /-- The queue of jobs. -/
  jobs : List (Job α)
  /-- The workers. -/
  workers : List (Worker α β)
  /-- The queue of reports. -/
  reports : List (Report β)
  /-- The queue of reports is not closed yet. -/
  reporting : Bool
  /-- The report for each item, if it was collected. -/
  slots : List (Option (Report β))
  /-- What was returned at the end: a report for each item, and whether the batch reports its
  cancellation. -/
  returned : Option (List (Report β) × Bool)
  /-- The jobs the function was called for, in the order of the calls. -/
  called : List (Job α)

/-- The number of workers that are started: no more than there are items, unless there are none. -/
def workerCount {α : Type} (workers : Nat) (items : List α) : Nat :=
  if items.length < workers ∧ 0 < items.length then items.length else workers

theorem workerCount_pos {α : Type} {workers : Nat} (h : 0 < workers) (items : List α) :
    0 < workerCount workers items := by
  rw [workerCount]
  split
  · next hitems => exact hitems.2
  · exact h

/-- The room in each of the queues. -/
def capacity {α : Type} (workers : Nat) (items : List α) : Nat :=
  2 * workerCount workers items

/-- The reports that are returned. For an item without report there is one of the cancellation, if
the batch is canceled by then, and one without result if it is not. -/
def fillSlots {β : Type} (canceled : Bool) (slots : List (Option (Report β))) : List (Report β) :=
  slots.mapIdx fun i slot => slot.getD ⟨i, if canceled then some .canceled else none⟩

variable {α β : Type}

/-- A pool that starts, possibly after the batch was canceled. -/
def Pool.start (canceled : Bool) (workers : Nat) (items : List α) : Pool α β where
  canceled := canceled
  pending := items.mapIdx Job.mk
  feeding := true
  jobs := []
  workers := List.replicate (workerCount workers items) .waiting
  reports := []
  reporting := true
  slots := List.replicate items.length none
  returned := none
  called := []

/-! ## Steps -/

/-- One step of a pool with the given room in its queues, whose workers call `f`. -/
inductive Step (f : α → β) (capacity : Nat) (s : Pool α β) : Pool α β → Prop where
  /-- The batch is canceled. -/
  | cancel (hrunning : s.canceled = false) : Step f capacity s { s with canceled := true }
  /-- The feeder feeds a job. -/
  | feed {job : Job α} {rest : List (Job α)} (hfeeding : s.feeding = true)
      (hpending : s.pending = job :: rest) (hroom : s.jobs.length < capacity) :
      Step f capacity s { s with pending := rest, jobs := s.jobs ++ [job] }
  /-- The feeder closes the queue, because there is no item left or the batch is canceled. -/
  | stop (hfeeding : s.feeding = true) (hdone : s.pending = [] ∨ s.canceled = true) :
      Step f capacity s { s with feeding := false }
  /-- A worker takes a job. -/
  | take {before after : List (Worker α β)} {job : Job α} {rest : List (Job α)}
      (hworkers : s.workers = before ++ .waiting :: after) (hjobs : s.jobs = job :: rest) :
      Step f capacity s { s with jobs := rest, workers := before ++ .holding job :: after }
  /-- A worker finds that the batch is canceled. -/
  | skip {before after : List (Worker α β)} {job : Job α}
      (hworkers : s.workers = before ++ .holding job :: after) (hcanceled : s.canceled = true) :
      Step f capacity s
        { s with workers := before ++ .sending ⟨job.index, some .canceled⟩ :: after }
  /-- A worker finds that the batch is not canceled. -/
  | begin {before after : List (Worker α β)} {job : Job α}
      (hworkers : s.workers = before ++ .holding job :: after) (hcanceled : s.canceled = false) :
      Step f capacity s { s with workers := before ++ .running job :: after }
  /-- A worker calls the function. -/
  | call {before after : List (Worker α β)} {job : Job α}
      (hworkers : s.workers = before ++ .running job :: after) :
      Step f capacity s
        { s with
          workers := before ++ .sending ⟨job.index, some (.done (f job.item))⟩ :: after,
          called := s.called ++ [job] }
  /-- A worker sends its report. -/
  | send {before after : List (Worker α β)} {report : Report β}
      (hworkers : s.workers = before ++ .sending report :: after)
      (hroom : s.reports.length < capacity) :
      Step f capacity s
        { s with workers := before ++ .waiting :: after, reports := s.reports ++ [report] }
  /-- A worker finds that no job will come any more. -/
  | exit {before after : List (Worker α β)}
      (hworkers : s.workers = before ++ .waiting :: after) (hjobs : s.jobs = [])
      (hfeeding : s.feeding = false) :
      Step f capacity s { s with workers := before ++ .exited :: after }
  /-- The queue of reports is closed after all workers. -/
  | close (hworkers : ∀ worker ∈ s.workers, worker = .exited) (hreporting : s.reporting = true) :
      Step f capacity s { s with reporting := false }
  /-- The collector puts a report into the slot of its item. -/
  | collect {report : Report β} {rest : List (Report β)} (hreports : s.reports = report :: rest)
      (hreturned : s.returned = none) :
      Step f capacity s
        { s with reports := rest, slots := s.slots.set report.index (some report) }
  /-- The collector finds that no report will come any more, and fills the slots that are empty. -/
  | finish (hreports : s.reports = []) (hreporting : s.reporting = false)
      (hreturned : s.returned = none) :
      Step f capacity s { s with returned := some (fillSlots s.canceled s.slots, s.canceled) }

/-- The states that a pool can be in after it was started. -/
def Reachable (f : α → β) (canceled : Bool) (workers : Nat) (items : List α) (s : Pool α β) :
    Prop :=
  Relation.ReflTransGen (Step f (capacity workers items)) (.start canceled workers items) s

/-- What is true at the start and stays true in every step is true in all states. -/
theorem Reachable.induction {f : α → β} {canceled : Bool} {workers : Nat} {items : List α}
    {P : Pool α β → Prop} {s : Pool α β} (h : Reachable f canceled workers items s)
    (hstart : P (.start canceled workers items))
    (hstep : ∀ s s', Step f (capacity workers items) s s' → P s → P s') : P s := by
  induction h with
  | refl => exact hstart
  | tail _ hlast ih => exact hstep _ _ hlast ih

/-! ## Termination -/

/-- How much a worker has left to do before it exits. -/
def Worker.work : Worker α β → Nat
  | waiting => 1
  | holding _ => 5
  | running _ => 4
  | sending _ => 3
  | exited => 0

/-- How much there is left to do: an item gets through the pool in six steps. -/
def Pool.work (s : Pool α β) : Nat :=
  6 * s.pending.length + 5 * s.jobs.length + (s.workers.map Worker.work).sum + s.reports.length +
    s.feeding.toNat + s.reporting.toNat + (!s.canceled).toNat + s.returned.isNone.toNat

/-- Every step leaves less to do, so that no pool can go on forever. -/
theorem Step.work_lt {f : α → β} {capacity : Nat} {s s' : Pool α β} (h : Step f capacity s s') :
    s'.work < s.work := by
  cases h with
  | cancel hrunning => simp [Pool.work, hrunning]
  | feed _ hpending _ =>
    simp only [Pool.work, hpending, List.length_append, List.length_cons, List.length_nil]
    omega
  | stop hfeeding _ => simp [Pool.work, hfeeding]
  | take hworkers hjobs =>
    simp only [Pool.work, hworkers, hjobs, Worker.work, List.map_append, List.map_cons,
      List.sum_append, List.sum_cons, List.length_cons]
    omega
  | skip hworkers _ =>
    simp [Pool.work, hworkers, Worker.work]
  | begin hworkers _ =>
    simp [Pool.work, hworkers, Worker.work]
  | call hworkers =>
    simp [Pool.work, hworkers, Worker.work]
  | send hworkers _ =>
    simp only [Pool.work, hworkers, Worker.work, List.map_append, List.map_cons,
      List.sum_append, List.sum_cons, List.length_append, List.length_cons, List.length_nil]
    omega
  | exit hworkers _ _ => simp [Pool.work, hworkers, Worker.work]
  | close _ hreporting => simp [Pool.work, hreporting]
  | collect hreports _ => simp [Pool.work, hreports]
  | finish _ _ hreturned => simp [Pool.work, hreturned]

/-! ## Progress -/

/-- A pool that did not return can go on, and without being canceled. -/
theorem exists_step (f : α → β) {capacity : Nat} (hroom : 0 < capacity) {s : Pool α β}
    (hreturned : s.returned = none) : ∃ s', Step f capacity s s' ∧ s'.canceled = s.canceled := by
  cases hreports : s.reports with
  | cons report rest => exact ⟨_, .collect hreports hreturned, rfl⟩
  | nil =>
    -- the collector waits, so there is room for reports
    have hreportRoom : s.reports.length < capacity := by
      rw [hreports]
      exact hroom
    by_cases hbusy : ∃ worker ∈ s.workers, worker ≠ .waiting ∧ worker ≠ .exited
    · -- a worker that has something to do can do it
      obtain ⟨worker, hworker, hwaiting, hexited⟩ := hbusy
      obtain ⟨before, after, hworkers⟩ := List.append_of_mem hworker
      cases worker with
      | waiting => exact absurd rfl hwaiting
      | exited => exact absurd rfl hexited
      | holding job =>
        cases hcanceled : s.canceled with
        | true => exact ⟨_, .skip hworkers hcanceled, hcanceled⟩
        | false => exact ⟨_, .begin hworkers hcanceled, hcanceled⟩
      | running job => exact ⟨_, .call hworkers, rfl⟩
      | sending report => exact ⟨_, .send hworkers hreportRoom, rfl⟩
    · by_cases hwaiting : .waiting ∈ s.workers
      · -- a worker that waits gets a job, or the feeder can go on, or no job will come
        obtain ⟨before, after, hworkers⟩ := List.append_of_mem hwaiting
        cases hjobs : s.jobs with
        | cons job rest => exact ⟨_, .take hworkers hjobs, rfl⟩
        | nil =>
          cases hfeeding : s.feeding with
          | false => exact ⟨_, .exit hworkers hjobs hfeeding, rfl⟩
          | true =>
            cases hpending : s.pending with
            | nil => exact ⟨_, .stop hfeeding (.inl hpending), rfl⟩
            | cons job rest => exact ⟨_, .feed hfeeding hpending (by rwa [hjobs]), rfl⟩
      · -- all workers are gone, and what is left is to close the queue and to return
        have hexited : ∀ worker ∈ s.workers, worker = .exited := by
          intro worker hworker
          by_cases hexited : worker = .exited
          · exact hexited
          · exact absurd ⟨worker, hworker, fun heq => hwaiting (heq ▸ hworker), hexited⟩ hbusy
        cases hreporting : s.reporting with
        | true => exact ⟨_, .close hexited hreporting, rfl⟩
        | false => exact ⟨_, .finish hreports hreporting hreturned, rfl⟩

/-- A pool can always go on until it returns, and without being canceled. -/
theorem exists_returned (f : α → β) {capacity : Nat} (hroom : 0 < capacity) (s : Pool α β) :
    ∃ s', Relation.ReflTransGen (Step f capacity) s s' ∧ s'.canceled = s.canceled ∧
      s'.returned.isSome = true := by
  -- every step leaves less work
  induction hwork : s.work using Nat.strongRecOn generalizing s with
  | _ work ih =>
    cases hreturned : s.returned with
    | some result => exact ⟨s, .refl, rfl, by rw [hreturned]; rfl⟩
    | none =>
      obtain ⟨next, hstep, hcanceled⟩ := exists_step f hroom hreturned
      obtain ⟨last, hsteps, hsame, hlast⟩ := ih next.work (hwork ▸ hstep.work_lt) next rfl
      exact ⟨last, .head hstep hsteps, hsame.trans hcanceled, hlast⟩

end MorrowindScript.Batch
