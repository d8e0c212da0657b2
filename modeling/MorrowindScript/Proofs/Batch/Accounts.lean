import MorrowindScript.Proofs.Batch.Pool
import Mathlib.Data.List.Count

/-!
# What is true of a pool at any time

However the members of a pool take turns, and whenever the batch is canceled, they stop in a fixed
order, and every item is at one place of the pool: among the items to feed, in one of the queues,
with a worker or in its slot.

The module introduces:

* `Batch.Pool.Orderly` — the members stop one after another.
* `Batch.Pool.liveJobs`, `Batch.Pool.liveReports` — the jobs and the reports in the pool.
* `Batch.Step.exists_processed` — what a step does to them: some jobs become reports.
* `Batch.Pool.Accounted` — every item is in the pool once, and the function was called for the items
  with a value.
* `Batch.Pool.Sound` — jobs have the items at their places, and reports say what became of them.
-/

namespace MorrowindScript.Batch

variable {α β : Type}

/-! ## The order in which the members stop -/

/-- The feeder stops before the workers, the workers before the queue of reports is closed, and the
collector at last. -/
structure Pool.Orderly (s : Pool α β) : Prop where
  workers : s.workers ≠ []
  feeder : s.feeding = false → s.pending = [] ∨ s.canceled = true
  exited : .exited ∈ s.workers → s.feeding = false ∧ s.jobs = []
  closed : s.reporting = false → ∀ worker ∈ s.workers, worker = .exited
  collector : s.returned.isSome = true → s.reporting = false ∧ s.reports = []

namespace Pool.Orderly

theorem start (canceled : Bool) {workers : Nat} (hworkers : 0 < workers) (items : List α) :
    (Pool.start canceled workers items : Pool α β).Orderly where
  workers := by
    have hcount := workerCount_pos hworkers items
    simp only [Pool.start, ne_eq, List.replicate_eq_nil_iff]
    omega
  feeder := by simp [Pool.start]
  exited := by simp [Pool.start]
  closed := by simp [Pool.start]
  collector := by simp [Pool.start]

variable {s : Pool α β}

/-- As long as a worker is there, it can send reports, and nothing is returned. -/
theorem reporting_of_mem (hs : s.Orderly) {worker : Worker α β} (hmem : worker ∈ s.workers)
    (hworker : worker ≠ .exited) : s.reporting = true ∧ s.returned = none := by
  have hreporting : s.reporting = true := by
    by_contra hclosed
    exact hworker (hs.closed (eq_false_of_ne_true hclosed) worker hmem)
  refine ⟨hreporting, ?_⟩
  cases hreturned : s.returned with
  | none => rfl
  | some result =>
    have hclosed := (hs.collector (by rw [hreturned]; rfl)).1
    exact absurd (hreporting.symm.trans hclosed) (by simp)

/-- A worker that does not exit may go on to another state, whatever it puts into the queue of
reports. -/
theorem replace_worker (hs : s.Orderly) {before after : List (Worker α β)}
    {worker worker' : Worker α β} (hworkers : s.workers = before ++ worker :: after)
    (hworker : worker ≠ .exited) (hworker' : worker' ≠ .exited) {jobs : List (Job α)}
    (hjobs : s.jobs = [] → jobs = []) {reports : List (Report β)} {called : List (Job α)} :
    Pool.Orderly
      { s with
        workers := before ++ worker' :: after, jobs := jobs, reports := reports,
        called := called } := by
  have hmem : worker ∈ s.workers := by simp [hworkers]
  obtain ⟨hreporting, hreturned⟩ := hs.reporting_of_mem hmem hworker
  refine ⟨by simp, hs.feeder, ?_, ?_, ?_⟩
  · intro hexited
    have hold : .exited ∈ s.workers := by
      rw [hworkers]
      simpa [hworker'.symm, hworker.symm] using hexited
    exact ⟨(hs.exited hold).1, hjobs (hs.exited hold).2⟩
  · intro hclosed
    exact absurd (hreporting.symm.trans hclosed) (by simp)
  · intro hsome
    exact absurd hsome (by simp [hreturned])

end Pool.Orderly

theorem Step.orderly {f : α → β} {capacity : Nat} {s s' : Pool α β} (h : Step f capacity s s')
    (hs : s.Orderly) : s'.Orderly := by
  cases h with
  | cancel _ => exact { hs with feeder := fun _ => .inr rfl }
  | feed hfeeding _ _ =>
    -- the feeder is still there, and so are all workers
    refine { hs with feeder := ?_, exited := ?_ }
    · intro hstopped
      exact absurd (hfeeding.symm.trans hstopped) (by simp)
    · intro hexited
      exact absurd (hfeeding.symm.trans (hs.exited hexited).1) (by simp)
  | stop hfeeding hdone =>
    refine { hs with feeder := fun _ => hdone, exited := ?_ }
    intro hexited
    exact ⟨rfl, (hs.exited hexited).2⟩
  | take hworkers hjobs =>
    exact hs.replace_worker hworkers (by simp) (by simp) fun hnone => absurd hnone (by simp [hjobs])
  | skip hworkers _ => exact hs.replace_worker hworkers (by simp) (by simp) id
  | begin hworkers _ => exact hs.replace_worker hworkers (by simp) (by simp) id
  | call hworkers => exact hs.replace_worker hworkers (by simp) (by simp) id
  | send hworkers _ => exact hs.replace_worker hworkers (by simp) (by simp) id
  | @exit before after hworkers hjobs hfeeding =>
    -- the first worker to exit may find others busy, but no job
    refine { hs with workers := by simp, exited := fun _ => ⟨hfeeding, hjobs⟩, closed := ?_ }
    intro hclosed worker hmem
    rcases List.mem_append.1 hmem with hmem | hmem
    · exact hs.closed hclosed worker (by simp [hworkers, hmem])
    · rcases List.mem_cons.1 hmem with rfl | hmem
      · rfl
      · exact hs.closed hclosed worker (by simp [hworkers, hmem])
  | close hexited hreporting =>
    refine { hs with closed := fun _ => hexited, collector := ?_ }
    intro hsome
    exact ⟨rfl, (hs.collector hsome).2⟩
  | collect _ hreturned => exact { hs with collector := by simp [hreturned] }
  | finish hreports hreporting _ => exact { hs with collector := fun _ => ⟨hreporting, hreports⟩ }

/-! ## Where the items are -/

/-- The job of a worker that did not process it yet. -/
@[simp]
def Worker.job? : Worker α β → Option (Job α)
  | holding job | running job => some job
  | waiting | sending _ | exited => none

/-- The report of a worker that did not send it yet. -/
@[simp]
def Worker.report? : Worker α β → Option (Report β)
  | sending report => some report
  | waiting | holding _ | running _ | exited => none

/-- The jobs in the pool. -/
def Pool.liveJobs (s : Pool α β) : List (Job α) :=
  s.pending ++ s.jobs ++ s.workers.filterMap Worker.job?

/-- The reports in the pool. -/
def Pool.liveReports (s : Pool α β) : List (Report β) :=
  s.workers.filterMap Worker.report? ++ s.reports ++ s.slots.filterMap id

/-- The report for a job that is not run any more. -/
def Job.canceledReport (job : Job α) : Report β :=
  ⟨job.index, some .canceled⟩

/-- The report for a job the function was called for. -/
def Job.doneReport (f : α → β) (job : Job α) : Report β :=
  ⟨job.index, some (.done (f job.item))⟩

theorem Job.index_comp_canceledReport :
    Report.index ∘ (canceledReport : Job α → Report β) = Job.index := rfl

theorem Job.index_comp_doneReport (f : α → β) : Report.index ∘ doneReport f = Job.index := rfl

/-- The report has a value. -/
def Report.isDone (report : Report β) : Bool :=
  match report.result with
  | some (.done _) => true
  | some .canceled | none => false

/-- Every item is in the pool once, as a job or as a report, and the function was called once for
every report with a value. -/
structure Pool.Accounted (count : Nat) (s : Pool α β) : Prop where
  slots : s.slots.length = count
  slot : ∀ (i : Nat) (report : Report β), s.slots[i]? = some (some report) → report.index = i
  items : (s.liveJobs.map Job.index ++ s.liveReports.map Report.index).Perm (List.range count)
  calls : (s.called.map Job.index).Perm ((s.liveReports.filter Report.isDone).map Report.index)

theorem Pool.liveJobs_start (canceled : Bool) (workers : Nat) (items : List α) :
    (Pool.start canceled workers items : Pool α β).liveJobs = items.mapIdx Job.mk := by
  simp [liveJobs, start, List.filterMap_replicate]

theorem Pool.liveReports_start (canceled : Bool) (workers : Nat) (items : List α) :
    (Pool.start canceled workers items : Pool α β).liveReports = [] := by
  simp [liveReports, start, List.filterMap_replicate]

namespace Pool.Accounted

theorem start (canceled : Bool) (workers : Nat) (items : List α) :
    (Pool.start canceled workers items : Pool α β).Accounted items.length := by
  refine ⟨List.length_replicate, ?_, ?_, ?_⟩
  · simp [Pool.start, List.getElem?_replicate]
  · rw [liveJobs_start, liveReports_start, List.map_nil, List.append_nil]
    apply List.Perm.of_eq
    apply List.ext_getElem
    · simp
    · simp
  · rw [liveReports_start]
    exact .nil

variable {count : Nat} {s : Pool α β}

/-- No item is twice in the pool. -/
theorem nodup (hs : s.Accounted count) :
    (s.liveJobs.map Job.index ++ s.liveReports.map Report.index).Nodup :=
  hs.items.nodup_iff.2 List.nodup_range

/-- A report that was collected is in the slot of its item. -/
theorem mem_slots_iff (hs : s.Accounted count) (report : Report β) :
    report ∈ s.slots.filterMap id ↔ s.slots[report.index]? = some (some report) := by
  rw [List.mem_filterMap]
  constructor
  · rintro ⟨_, hmem, rfl⟩
    obtain ⟨i, hi⟩ := List.mem_iff_getElem?.1 hmem
    exact (hs.slot i report hi).symm ▸ hi
  · intro hslot
    exact ⟨some report, List.mem_of_getElem? hslot, rfl⟩

/-- The slot of a report that was not collected yet is there, and empty. -/
theorem getElem?_slots (hs : s.Accounted count) {report : Report β} (hmem : report ∈ s.reports) :
    s.slots[report.index]? = some none := by
  have hlt : report.index < count := by
    rw [← List.mem_range, ← hs.items.mem_iff]
    exact List.mem_append_right _ (List.mem_map_of_mem (by simp [liveReports, hmem]))
  cases hslot : s.slots[report.index]? with
  | none => exact absurd hslot (by simp [hs.slots, hlt])
  | some slot =>
    cases slot with
    | none => rfl
    | some other =>
      -- otherwise the item is in the queue and in the slot
      have hindex := hs.slot _ _ hslot
      have hcollected := (hs.mem_slots_iff other).2 (hindex ▸ hslot)
      have hnodup := (List.nodup_append.1 hs.nodup).2.1
      rw [liveReports, List.map_append, List.map_append, List.nodup_append] at hnodup
      refine absurd hindex.symm (hnodup.2.2 _ ?_ _ (List.mem_map_of_mem hcollected))
      exact List.mem_append_right _ (List.mem_map_of_mem hmem)

end Pool.Accounted

/-- A list with one member replaced. -/
theorem exists_set_eq {γ : Type} {l : List γ} {i : Nat} {a : γ} (b : γ) (h : l[i]? = some a) :
    ∃ before after, l = before ++ a :: after ∧ l.set i b = before ++ b :: after := by
  obtain ⟨hlt, rfl⟩ := List.getElem?_eq_some_iff.1 h
  refine ⟨l.take i, l.drop (i + 1), ?_, ?_⟩
  · rw [List.getElem_cons_drop, List.take_append_drop]
  · rw [List.set_eq_take_append_cons_drop, if_pos hlt]

/-- The reports of a step: for the jobs that are skipped and for those the function is called for.
All other jobs and reports only move. -/
theorem Step.exists_processed {f : α → β} {capacity count : Nat} {s s' : Pool α β}
    (h : Step f capacity s s') (hs : s.Accounted count) :
    ∃ skipped called : List (Job α), s'.called = s.called ++ called ∧
      (skipped ≠ [] → s.canceled = true) ∧
      s.liveJobs.Perm (s'.liveJobs ++ (skipped ++ called)) ∧
      s'.liveReports.Perm
        (s.liveReports ++ (skipped.map Job.canceledReport ++ called.map (Job.doneReport f))) := by
  classical
  have hmoved {t : Pool α β} (hcalled : t.called = s.called) (hjobs : s.liveJobs.Perm t.liveJobs)
      (hreports : t.liveReports.Perm s.liveReports) :
      ∃ skipped called : List (Job α), t.called = s.called ++ called ∧
        (skipped ≠ [] → s.canceled = true) ∧
        s.liveJobs.Perm (t.liveJobs ++ (skipped ++ called)) ∧
        t.liveReports.Perm
          (s.liveReports ++ (skipped.map Job.canceledReport ++ called.map (Job.doneReport f))) :=
    ⟨[], [], by simp [hcalled], by simp, by simpa using hjobs, by simpa using hreports⟩
  -- that two lists have the same members is seen by counting
  cases h with
  | cancel _ | stop _ _ | close _ _ | finish _ _ _ => exact hmoved rfl .rfl .rfl
  | feed _ hpending _ =>
    refine hmoved rfl (List.perm_iff_count.2 fun job => ?_) .rfl
    simp only [Pool.liveJobs, hpending, List.count_append, List.count_cons, List.count_nil]
    omega
  | take hworkers hjobs =>
    refine hmoved rfl (List.perm_iff_count.2 fun job => ?_) (.of_eq ?_)
    · simp only [Pool.liveJobs, hworkers, hjobs, List.filterMap_append, List.filterMap_cons,
        Worker.job?, List.count_append, List.count_cons]
      omega
    · simp [Pool.liveReports, hworkers, List.filterMap_cons]
  | @skip _ _ job hworkers hcanceled =>
    refine ⟨[job], [], (List.append_nil _).symm, fun _ => hcanceled,
      List.perm_iff_count.2 fun job => ?_, List.perm_iff_count.2 fun report => ?_⟩
    · simp only [Pool.liveJobs, hworkers, List.filterMap_append, List.filterMap_cons,
        Worker.job?, List.count_append, List.count_cons, List.count_nil]
      omega
    · simp only [Pool.liveReports, hworkers, List.filterMap_append, List.filterMap_cons,
        Worker.report?, List.count_append, List.count_cons, List.count_nil, List.map_cons,
        List.map_nil, Job.canceledReport]
      omega
  | begin hworkers _ =>
    refine hmoved rfl (.of_eq ?_) (.of_eq ?_)
    · simp [Pool.liveJobs, hworkers]
    · simp [Pool.liveReports, hworkers, List.filterMap_cons]
  | @call _ _ job hworkers =>
    refine ⟨[], [job], rfl, fun hnil => absurd rfl hnil,
      List.perm_iff_count.2 fun job => ?_, List.perm_iff_count.2 fun report => ?_⟩
    · simp only [Pool.liveJobs, hworkers, List.filterMap_append, List.filterMap_cons,
        Worker.job?, List.count_append, List.count_cons, List.count_nil]
      omega
    · simp only [Pool.liveReports, hworkers, List.filterMap_append, List.filterMap_cons,
        Worker.report?, List.count_append, List.count_cons, List.count_nil, List.map_cons,
        List.map_nil, Job.doneReport]
      omega
  | send hworkers _ =>
    refine hmoved rfl (.of_eq ?_) (List.perm_iff_count.2 fun report => ?_)
    · simp [Pool.liveJobs, hworkers, List.filterMap_cons]
    · simp only [Pool.liveReports, hworkers, List.filterMap_append, List.filterMap_cons,
        Worker.report?, List.count_append, List.count_cons, List.count_nil]
      omega
  | exit hworkers _ _ =>
    refine hmoved rfl (.of_eq ?_) (.of_eq ?_)
    · simp [Pool.liveJobs, hworkers, List.filterMap_cons]
    · simp [Pool.liveReports, hworkers, List.filterMap_cons]
  | @collect report rest hreports _ =>
    refine hmoved rfl .rfl (List.perm_iff_count.2 fun other => ?_)
    have hslot : s.slots[report.index]? = some none := hs.getElem?_slots (by simp [hreports])
    obtain ⟨before, after, hslots, hset⟩ := exists_set_eq (some report) hslot
    simp only [Pool.liveReports, hreports, hset]
    simp only [hslots, List.filterMap_append, List.filterMap_cons, id, List.count_append,
      List.count_cons]
    omega

/-- What a step does keeps the accounts right. -/
theorem Step.accounted {f : α → β} {capacity count : Nat} {s s' : Pool α β}
    (h : Step f capacity s s') (hs : s.Accounted count) : s'.Accounted count := by
  obtain ⟨skipped, called, hcalled, -, hjobs, hreports⟩ := h.exists_processed hs
  refine ⟨?_, ?_, ?_, ?_⟩
  · -- only the collector writes slots
    cases h with
    | collect => exact (List.length_set ..).trans hs.slots
    | _ => exact hs.slots
  · cases h with
    | @collect report =>
      intro i other hslot
      rw [List.getElem?_set] at hslot
      split at hslot
      · next hi =>
        obtain ⟨-, hother⟩ := Option.ite_none_right_eq_some.1 hslot
        obtain rfl : report = other := Option.some.inj (Option.some.inj hother)
        exact hi
      · exact hs.slot i other hslot
    | _ => exact hs.slot
  · -- the indices of what was processed go from the jobs to the reports
    refine .trans (List.perm_iff_count.2 fun i => ?_) hs.items
    have hjobs := (hjobs.map Job.index).count_eq i
    have hreports := (hreports.map Report.index).count_eq i
    simp only [List.map_append, List.map_map, Job.index_comp_canceledReport,
      Job.index_comp_doneReport, List.count_append] at hjobs hreports ⊢
    omega
  · -- of the new reports, exactly those for calls have a value
    have hskipped :
        (skipped.map (Job.canceledReport : Job α → Report β)).filter Report.isDone = [] := by
      simp [Report.isDone, Job.canceledReport]
    have hdone : (called.map (Job.doneReport f)).filter Report.isDone =
        called.map (Job.doneReport f) := by
      simp [Report.isDone, Job.doneReport]
    have hfiltered := (hreports.filter Report.isDone).map Report.index
    rw [List.filter_append, List.filter_append, hskipped, hdone, List.nil_append, List.map_append,
      List.map_map, Job.index_comp_doneReport] at hfiltered
    rw [hcalled, List.map_append]
    exact (hs.calls.append_right _).trans hfiltered.symm

/-! ## What jobs and reports say -/

/-- A report says what became of its item: the function was applied to it, or the batch was
canceled. -/
def Report.IsSound (f : α → β) (items : List α) (canceled : Bool) (report : Report β) : Prop :=
  (∃ item, items[report.index]? = some item ∧ report.result = some (.done (f item))) ∨
    report.result = some .canceled ∧ canceled = true

/-- Jobs have the items at their places, and reports say what became of them. -/
structure Pool.Sound (f : α → β) (items : List α) (s : Pool α β) : Prop where
  job : ∀ job ∈ s.liveJobs ++ s.called, items[job.index]? = some job.item
  report : ∀ report ∈ s.liveReports, report.IsSound f items s.canceled

theorem Pool.Sound.start (f : α → β) (canceled : Bool) (workers : Nat) (items : List α) :
    (Pool.start canceled workers items : Pool α β).Sound f items where
  job := by
    rw [liveJobs_start]
    intro job hjob
    obtain ⟨i, hlt, rfl⟩ : ∃ i, ∃ hlt : i < items.length, ⟨i, items[i]⟩ = job := by
      simpa [Pool.start, List.mem_mapIdx] using hjob
    exact List.getElem?_eq_getElem hlt
  report := by
    rw [liveReports_start]
    exact fun report hreport => absurd hreport List.not_mem_nil

/-- A cancellation is not taken back. -/
theorem Step.canceled {f : α → β} {capacity : Nat} {s s' : Pool α β} (h : Step f capacity s s')
    (hs : s.canceled = true) : s'.canceled = true := by
  cases h with
  | cancel => rfl
  | _ => exact hs

theorem Step.sound {f : α → β} {capacity : Nat} {items : List α} {s s' : Pool α β}
    (h : Step f capacity s s') (haccounted : s.Accounted items.length) (hs : s.Sound f items) :
    s'.Sound f items := by
  obtain ⟨skipped, called, hcalled, hcanceled, hjobs, hreports⟩ := h.exists_processed haccounted
  have hprocessed : ∀ job ∈ skipped ++ called, items[job.index]? = some job.item := by
    intro job hjob
    exact hs.job job (List.mem_append_left _ (hjobs.mem_iff.2 (List.mem_append_right _ hjob)))
  refine ⟨?_, ?_⟩
  · intro job hjob
    rw [hcalled, List.mem_append, List.mem_append] at hjob
    rcases hjob with hlive | hold | hnew
    · exact hs.job job (List.mem_append_left _ (hjobs.mem_iff.2 (List.mem_append_left _ hlive)))
    · exact hs.job job (List.mem_append_right _ hold)
    · exact hprocessed job (List.mem_append_right _ hnew)
  · intro report hreport
    rw [hreports.mem_iff, List.mem_append, List.mem_append, List.mem_map, List.mem_map] at hreport
    rcases hreport with hold | ⟨job, hjob, rfl⟩ | ⟨job, hjob, rfl⟩
    · rcases hs.report report hold with hdone | ⟨hresult, hwas⟩
      · exact .inl hdone
      · exact .inr ⟨hresult, h.canceled hwas⟩
    · exact .inr ⟨rfl, h.canceled (hcanceled (List.ne_nil_of_mem hjob))⟩
    · exact .inl ⟨job.item, hprocessed job (List.mem_append_right _ hjob), rfl⟩

end MorrowindScript.Batch
