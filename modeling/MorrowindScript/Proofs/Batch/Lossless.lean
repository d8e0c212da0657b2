import MorrowindScript.Proofs.Batch.Accounts

/-!
# Batches lose nothing

A pool that was started on some items returns one report per item, in order, however its members
take turns. Without cancellation these are the values of the function, as `Batch.run` has them.

The module introduces:

* `Batch.IsOutcome` — what a pool may return.
* `Batch.Reachable.invariant` — what is true of a pool at any time, and of what it has returned.
* `Batch.Reachable.idle` — a pool that starts after the cancellation calls nothing.
* `Batch.compileFile`, `Batch.sourceResults` — a source on its own, and the results of a batch.
* `Batch.lossless` — a pool completes and returns an outcome, and a batch of sources has for each
  source what compiling it on its own gives.
-/

namespace MorrowindScript.Batch

variable {α β : Type}

/-! ## What is returned -/

/-- What a pool may return: one report per item, in order, each with the value of the function for
its item or with the cancellation. The function was called at most once for each item, and for the
items with a value. If an item has no value, the batch reports its cancellation. -/
structure IsOutcome (f : α → β) (items : List α) (called : List (Job α))
    (reports : List (Report β)) (canceled : Bool) : Prop where
  length : reports.length = items.length
  once : (called.map Job.index).Nodup
  item : ∀ job ∈ called, items[job.index]? = some job.item
  report : ∀ (i : Nat) (item : α), items[i]? = some item →
    reports[i]? = some ⟨i, some (.done (f item))⟩ ∧ i ∈ called.map Job.index ∨
    reports[i]? = some ⟨i, some .canceled⟩ ∧ i ∉ called.map Job.index ∧ canceled = true

theorem length_fillSlots (canceled : Bool) (slots : List (Option (Report β))) :
    (fillSlots canceled slots).length = slots.length :=
  List.length_mapIdx

theorem getElem?_fillSlots (canceled : Bool) (slots : List (Option (Report β))) (i : Nat) :
    (fillSlots canceled slots)[i]? = slots[i]?.map fun slot =>
      slot.getD ⟨i, if canceled then some .canceled else none⟩ :=
  List.getElem?_mapIdx

/-- The items with a value are those that the function was called for, once all reports are
collected. -/
theorem Pool.Accounted.mem_called_iff {count : Nat} {s : Pool α β} (hs : s.Accounted count)
    (hcollected : s.liveReports = s.slots.filterMap id) (i : Nat) :
    i ∈ s.called.map Job.index ↔
      ∃ report, s.slots[i]? = some (some report) ∧ report.isDone = true := by
  rw [hs.calls.mem_iff, List.mem_map, hcollected]
  constructor
  · rintro ⟨report, hreport, rfl⟩
    obtain ⟨hmem, hdone⟩ := List.mem_filter.1 hreport
    exact ⟨report, (hs.mem_slots_iff report).1 hmem, hdone⟩
  · rintro ⟨report, hslot, hdone⟩
    obtain rfl := hs.slot i report hslot
    exact ⟨report, List.mem_filter.2 ⟨(hs.mem_slots_iff report).2 hslot, hdone⟩, rfl⟩

/-- Once the queue of reports is closed and empty, all jobs that are left were not fed, and all
reports are in their slots. -/
theorem Pool.Orderly.live_eq {s : Pool α β} (hs : s.Orderly) (hreporting : s.reporting = false)
    (hreports : s.reports = []) :
    s.liveJobs = s.pending ∧ s.liveReports = s.slots.filterMap id ∧
      (s.pending = [] ∨ s.canceled = true) := by
  have hexited := hs.closed hreporting
  obtain ⟨worker, hworker⟩ := List.exists_mem_of_ne_nil _ hs.workers
  obtain ⟨hfeeding, hjobs⟩ := hs.exited (hexited worker hworker ▸ hworker)
  have hnoJobs : s.workers.filterMap Worker.job? = [] :=
    List.filterMap_eq_nil_iff.2 fun worker hworker => by rw [hexited worker hworker]; rfl
  have hnoReports : s.workers.filterMap Worker.report? = [] :=
    List.filterMap_eq_nil_iff.2 fun worker hworker => by rw [hexited worker hworker]; rfl
  refine ⟨?_, ?_, hs.feeder hfeeding⟩
  · rw [liveJobs, hnoJobs, hjobs, List.append_nil, List.append_nil]
  · rw [liveReports, hnoReports, hreports, List.nil_append, List.nil_append]

/-- Once the queue of reports is closed and empty, the slots and what they are filled with are an
outcome. -/
theorem isOutcome_of_collected {f : α → β} {items : List α} {s : Pool α β} (horderly : s.Orderly)
    (haccounted : s.Accounted items.length) (hsound : s.Sound f items)
    (hreporting : s.reporting = false) (hreports : s.reports = []) :
    IsOutcome f items s.called (fillSlots s.canceled s.slots) s.canceled := by
  obtain ⟨hliveJobs, hliveReports, hfed⟩ := horderly.live_eq hreporting hreports
  refine ⟨?_, ?_, ?_, ?_⟩
  · rw [length_fillSlots, haccounted.slots]
  · -- the calls are some of the items in the pool, none of which is there twice
    rw [haccounted.calls.nodup_iff]
    exact (List.nodup_append.1 haccounted.nodup).2.1.sublist (List.filter_sublist.map _)
  · exact fun job hjob => hsound.job job (List.mem_append_right _ hjob)
  · intro i item hitem
    have hlt : i < items.length := (List.getElem?_eq_some_iff.1 hitem).1
    have hcalled := haccounted.mem_called_iff hliveReports i
    rw [getElem?_fillSlots]
    obtain ⟨slot, hslot⟩ : ∃ slot, s.slots[i]? = some slot :=
      ⟨_, List.getElem?_eq_getElem (haccounted.slots ▸ hlt)⟩
    -- an item was collected, or it was never fed
    cases slot with
    | some report =>
      obtain ⟨index, result⟩ := report
      obtain rfl : index = i := haccounted.slot i _ hslot
      have hmem := hliveReports ▸ (haccounted.mem_slots_iff ⟨index, result⟩).2 hslot
      rcases hsound.report _ hmem with ⟨item', hitem', rfl⟩ | ⟨rfl, hcanceled⟩
      · obtain rfl : item' = item := Option.some.inj (hitem'.symm.trans hitem)
        refine .inl ⟨?_, hcalled.2 ⟨_, hslot, rfl⟩⟩
        rw [hslot]
        rfl
      · refine .inr ⟨?_, ?_, hcanceled⟩
        · rw [hslot]
          rfl
        · rw [hcalled, hslot]
          rintro ⟨_, ⟨⟩, ⟨⟩⟩
    | none =>
      -- the item was not fed, which is due to the cancellation
      have hpending : s.pending ≠ [] := by
        rintro hnil
        have hindex := haccounted.items.mem_iff.2 (List.mem_range.2 hlt)
        rw [hliveJobs, hnil, List.map_nil, List.nil_append, hliveReports] at hindex
        obtain ⟨report, hreport, rfl⟩ := List.mem_map.1 hindex
        exact absurd (((haccounted.mem_slots_iff report).1 hreport).symm.trans hslot) (by simp)
      have hcanceled := hfed.resolve_left hpending
      refine .inr ⟨?_, ?_, hcanceled⟩
      · rw [hslot, hcanceled]
        rfl
      · rw [hcalled, hslot]
        rintro ⟨_, ⟨⟩, -⟩

namespace IsOutcome

variable {f : α → β} {items : List α} {called : List (Job α)} {reports : List (Report β)}
  {canceled : Bool}

/-- The results of an outcome, one by one. -/
theorem map_result_eq (h : IsOutcome f items called reports canceled) {g : α → JobResult β}
    (hg : ∀ (i : Nat) (item : α), items[i]? = some item →
      reports[i]? = some ⟨i, some (g item)⟩) :
    reports.map Report.result = (items.map g).map some := by
  apply List.ext_getElem?
  intro i
  rw [List.getElem?_map, List.getElem?_map, List.getElem?_map]
  cases hitem : items[i]? with
  | none =>
    have hnone : reports[i]? = none := by
      rw [List.getElem?_eq_none_iff] at hitem ⊢
      rw [h.length]
      exact hitem
    rw [hnone]
    rfl
  | some item =>
    rw [hg i item hitem]
    rfl

/-- Without cancellation, all values are there. -/
theorem map_result_of_not_canceled (h : IsOutcome f items called reports false) :
    reports.map Report.result = (run false f items).map some := by
  refine h.map_result_eq fun i item hitem => ?_
  rcases h.report i item hitem with ⟨hreport, -⟩ | ⟨-, -, hcanceled⟩
  · exact hreport
  · exact absurd hcanceled (by simp)

/-- Without calls, all items are canceled. -/
theorem map_result_of_not_called (h : IsOutcome f items [] reports canceled) :
    reports.map Report.result = (run true f items).map some := by
  refine h.map_result_eq fun i item hitem => ?_
  rcases h.report i item hitem with ⟨-, hcalled⟩ | ⟨hreport, -⟩
  · exact absurd hcalled (by simp)
  · exact hreport

end IsOutcome

/-! ## Runs -/

/-- What is true of a pool at any time. -/
structure Pool.Invariant (f : α → β) (items : List α) (s : Pool α β) : Prop where
  orderly : s.Orderly
  accounted : s.Accounted items.length
  sound : s.Sound f items
  outcome : ∀ reports canceled, s.returned = some (reports, canceled) →
    IsOutcome f items s.called reports canceled ∧ (canceled = true → s.canceled = true)

theorem Step.invariant {f : α → β} {capacity : Nat} {items : List α} {s s' : Pool α β}
    (h : Step f capacity s s') (hs : s.Invariant f items) : s'.Invariant f items := by
  refine ⟨h.orderly hs.orderly, h.accounted hs.accounted, h.sound hs.accounted hs.sound, ?_⟩
  -- what was returned stays, and so do the calls it was made from
  cases h with
  | cancel =>
    intro reports canceled hreturned
    exact ⟨(hs.outcome reports canceled hreturned).1, fun _ => rfl⟩
  | @call _ _ job hworkers =>
    -- nothing is returned before the last call
    intro reports canceled hreturned
    have hmem : .running job ∈ s.workers := by simp [hworkers]
    have hnone := (hs.orderly.reporting_of_mem hmem (by simp)).2
    exact absurd (hnone.symm.trans hreturned) (by simp)
  | finish hreports hreporting _ =>
    rintro reports canceled hreturned
    obtain ⟨rfl, rfl⟩ := Prod.mk.inj (Option.some.inj hreturned)
    have houtcome := isOutcome_of_collected hs.orderly hs.accounted hs.sound hreporting hreports
    exact ⟨houtcome, id⟩
  | _ => exact hs.outcome

theorem Reachable.invariant {f : α → β} {canceled : Bool} {workers : Nat} {items : List α}
    {s : Pool α β} (h : Reachable f canceled workers items s) (hworkers : 0 < workers) :
    s.Invariant f items := by
  refine h.induction ⟨.start canceled hworkers items, .start canceled workers items,
    .start f canceled workers items, ?_⟩ fun s s' hstep hs => hstep.invariant hs
  intro reports canceled hreturned
  exact absurd hreturned (by simp [Pool.start])

/-- A batch that is not canceled reports no cancellation. -/
theorem Pool.Invariant.outcome_of_not_canceled {f : α → β} {items : List α} {s : Pool α β}
    (hs : s.Invariant f items) {reports : List (Report β)} {err : Bool}
    (hreturned : s.returned = some (reports, err)) (hcanceled : s.canceled = false) :
    IsOutcome f items s.called reports err ∧ err = false := by
  obtain ⟨houtcome, herr⟩ := hs.outcome reports err hreturned
  cases err with
  | false => exact ⟨houtcome, rfl⟩
  | true => exact absurd (herr rfl) (by simp [hcanceled])

/-- The batch is canceled, and the function was not called and will not be. -/
structure Pool.Idle (s : Pool α β) : Prop where
  canceled : s.canceled = true
  called : s.called = []
  running : ∀ job, .running job ∉ s.workers
  returned : ∀ reports canceled, s.returned = some (reports, canceled) → canceled = true

theorem Step.idle {f : α → β} {capacity : Nat} {s s' : Pool α β} (h : Step f capacity s s')
    (hs : s.Idle) : s'.Idle := by
  cases h with
  | cancel => exact { hs with canceled := rfl }
  | feed | stop | close | collect => exact { hs with }
  | take hworkers _ =>
    refine { hs with running := ?_ }
    simpa [hworkers] using hs.running
  | skip hworkers _ =>
    refine { hs with running := ?_ }
    simpa [hworkers] using hs.running
  | begin _ hcanceled => exact absurd (hs.canceled.symm.trans hcanceled) (by simp)
  | @call _ _ job hworkers => exact absurd (by simp [hworkers]) (hs.running job)
  | send hworkers _ =>
    refine { hs with running := ?_ }
    simpa [hworkers] using hs.running
  | exit hworkers _ _ =>
    refine { hs with running := ?_ }
    simpa [hworkers] using hs.running
  | finish =>
    refine { hs with returned := ?_ }
    intro reports canceled hreturned
    rw [← (Prod.mk.inj (Option.some.inj hreturned)).2]
    exact hs.canceled

theorem Reachable.idle {f : α → β} {workers : Nat} {items : List α} {s : Pool α β}
    (h : Reachable f true workers items s) : s.Idle := by
  refine h.induction ⟨rfl, rfl, ?_, ?_⟩ fun s s' hstep hs => hstep.idle hs
  · simp [Pool.start]
  · simp [Pool.start]

/-! ## Batches of sources -/

/-- What compiling a file gives: a script or an error, and what is logged. -/
structure Compilation where
  /-- The script, or the error that stopped the compiler. -/
  result : Except CompileError Program
  /-- The lines of the log. -/
  log : Bytes

/-- Compiles a script on its own, as the file with the given name. Each line of the log comes after
`label`. -/
def compileFile (tables : Tables) (label file text : Bytes) : Compilation :=
  let outcome := Program.compile tables text
  ⟨outcome.result, outcome.warnings.flatMap (LineWarning.logLine label file)⟩

/-- What is returned for a source of a batch. -/
structure SourceResult where
  /-- The name of the source. -/
  name : Bytes
  /-- What became of the source. -/
  result : Option (JobResult Compilation)

/-- The results of a batch of sources, given the reports for them. -/
def sourceResults (sources : List Source) (reports : List (Report Compilation)) :
    List SourceResult :=
  List.zipWith (fun source report => ⟨source.name, report.result⟩) sources reports

/-- If the values of all sources are there, each is with the name of its source. -/
theorem IsOutcome.sourceResults_eq {f : Source → Compilation} {sources : List Source}
    {called : List (Job Source)} {reports : List (Report Compilation)}
    (h : IsOutcome f sources called reports false) :
    sourceResults sources reports =
      sources.map fun source => ⟨source.name, some (.done (f source))⟩ := by
  calc sourceResults sources reports
      = List.zipWith (fun source result => ⟨source.name, result⟩) sources
          (reports.map Report.result) := by
        rw [List.zipWith_map_right]
        rfl
    _ = sources.map fun source => ⟨source.name, some (.done (f source))⟩ := by
        rw [h.map_result_of_not_canceled, run, List.map_map, List.zipWith_map_right,
          List.zipWith_self]
        rfl

/-- A pool loses, duplicates and reorders nothing, whatever the order of its steps and whenever the
batch is canceled. It can always go on until it returns, and what it returns is an outcome. If the
batch was never canceled, that is what `run` gives for it; and so it is, without a call of the
function, if the batch was canceled before the start. Consequently a batch of sources that was not
canceled has for each source its name and what compiling it on its own gives. -/
theorem lossless :
    (∀ (α β : Type) (f : α → β) (items : List α) (workers : Nat) (canceled : Bool)
      (s : Pool α β), 0 < workers → Reachable f canceled workers items s →
        (∃ s', Relation.ReflTransGen (Step f (capacity workers items)) s s' ∧
          s'.canceled = s.canceled ∧ s'.returned.isSome = true) ∧
        ∀ reports err, s.returned = some (reports, err) →
          IsOutcome f items s.called reports err ∧
          (s.canceled = false →
            reports.map Report.result = (run false f items).map some ∧ err = false) ∧
          (canceled = true → s.called = [] ∧
            reports.map Report.result = (run true f items).map some ∧ err = true)) ∧
    ∀ (tables : Tables) (label : Bytes) (sources : List Source) (workers : Nat)
      (s : Pool Source Compilation) (reports : List (Report Compilation)) (err : Bool),
        0 < workers →
        Reachable (fun source => compileFile tables label source.name source.text) false workers
          sources s →
        s.returned = some (reports, err) → s.canceled = false →
        sourceResults sources reports = sources.map fun source =>
          ⟨source.name, some (.done (compileFile tables label source.name source.text))⟩ := by
  refine ⟨?_, ?_⟩
  · intro α β f items workers canceled s hworkers hreachable
    have hroom : 0 < capacity workers items :=
      Nat.mul_pos Nat.zero_lt_two (workerCount_pos hworkers items)
    refine ⟨exists_returned f hroom s, fun reports err hreturned => ?_⟩
    have hinvariant := hreachable.invariant hworkers
    have houtcome := (hinvariant.outcome reports err hreturned).1
    refine ⟨houtcome, fun hcanceled => ?_, ?_⟩
    · obtain ⟨houtcome, rfl⟩ := hinvariant.outcome_of_not_canceled hreturned hcanceled
      exact ⟨houtcome.map_result_of_not_canceled, rfl⟩
    · rintro rfl
      have hidle := hreachable.idle
      refine ⟨hidle.called, ?_, hidle.returned reports err hreturned⟩
      rw [hidle.called] at houtcome
      exact houtcome.map_result_of_not_called
  · intro tables label sources workers s reports err hworkers hreachable hreturned hcanceled
    obtain ⟨houtcome, rfl⟩ :=
      (hreachable.invariant hworkers).outcome_of_not_canceled hreturned hcanceled
    exact houtcome.sourceResults_eq

/-- A source that compiles and one that does not. -/
def twoSources : List Source :=
  [⟨ascii "door", ascii "begin door\nend"⟩, ⟨ascii "lamp", ascii "begin lamp\n"⟩]

theorem lossless_twoSources :
    (∃ s reports, Reachable (fun source : Source => compileFile .empty [] source.name source.text)
        false 1 twoSources s ∧ s.canceled = false ∧ s.returned = some (reports, false) ∧
      (sourceResults twoSources reports).map SourceResult.name = [ascii "door", ascii "lamp"]) ∧
    ∃ s reports, Reachable (fun source : Source => compileFile .empty [] source.name source.text)
        true 1 twoSources s ∧ s.called = [] ∧ s.returned = some (reports, true) := by
  have hcompletes (canceled : Bool) : ∃ s reports err,
      Reachable (fun source : Source => compileFile .empty [] source.name source.text)
        canceled 1 twoSources s ∧ s.canceled = canceled ∧ s.returned = some (reports, err) := by
    obtain ⟨s, hsteps, hcanceled, hreturned⟩ :=
      (lossless.1 _ _ (fun source : Source => compileFile .empty [] source.name source.text)
        twoSources 1 canceled _ Nat.one_pos .refl).1
    obtain ⟨⟨reports, err⟩, hreturned⟩ := Option.isSome_iff_exists.1 hreturned
    exact ⟨s, reports, err, hsteps, hcanceled, hreturned⟩
  refine ⟨?_, ?_⟩
  · obtain ⟨s, reports, err, hreachable, hcanceled, hreturned⟩ := hcompletes false
    obtain ⟨-, rfl⟩ :=
      ((lossless.1 _ _ _ _ _ _ s Nat.one_pos hreachable).2 reports err hreturned).2.1 hcanceled
    have hnamed := lossless.2 _ _ _ _ s reports false Nat.one_pos hreachable hreturned hcanceled
    refine ⟨s, reports, hreachable, hcanceled, hreturned, ?_⟩
    rw [hnamed]
    rfl
  · obtain ⟨s, reports, err, hreachable, -, hreturned⟩ := hcompletes true
    obtain ⟨hcalled, -, rfl⟩ :=
      ((lossless.1 _ _ _ _ _ _ s Nat.one_pos hreachable).2 reports err hreturned).2.2 rfl
    exact ⟨s, reports, hreachable, hcalled, hreturned⟩

end MorrowindScript.Batch
