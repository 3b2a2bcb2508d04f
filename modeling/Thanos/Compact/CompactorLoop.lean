import Thanos.Compact.PassSafety

/-!
# What `BucketCompactor.Compact` returns

`CompactRuns` strings the passes of `BucketCompactor.Compact` together: passes
that end by starting another, then one that returns.  Over every run of the
loop, whatever the scheduling of each of its passes:

* `Compact` returns an error only as the error of the sync, of the garbage
  collection or of the grouper wrapped once (`EarlyError`), or as the
  multi-error of what the workers of its last pass sent on `errChan`, each the
  error of a compaction of a group wrapped with the group's key and traced to
  its origin among the calls of that compaction (`GroupError`);
* `Compact` returns nil only after a pass in which every group the grouper
  built with more than one block was compacted once, and every iteration of
  that pass was a `Group.Compact` that succeeded, at that point of the pass,
  without asking for another pass.

Both rest on `Pass.Iterations`, which ties every outcome in the history of a
reachable pass to the iteration that produced it, and on `PassProvenance`,
what the history records about panics, the groups and early returns; every
step keeps both.
-/

namespace Thanos.Compact.CompactorLoop

open Thanos.Compact.Primitives
open Thanos.Compact.Errors
open Thanos.Compact.Metadata
open Thanos.Compact.CompactionGroup
open Thanos.Compact.Collaborators
open Thanos.Compact.GroupCompaction
open Thanos.Compact.CompactionSafety
open Thanos.Compact.CompactionPasses
open Thanos.Compact.ErrorOrigins

/-! ## The outcome of an iteration -/

section Worker

variable (pb : PassBackend) (c : BucketCompactor)

/-- The out-of-order-chunks check marks, publishes the error wrapped with the
group's key, or panics. -/
theorem skipOutOfOrderChunks_outcome (g : Group) (trace : Trace) (err : Error) :
    (skipOutOfOrderChunks pb c g trace err).2 ∈
      [.markedNoCompact, .failed (.wrap s!"group {g.key}" err), .panicked] := by
  unfold skipOutOfOrderChunks
  split_ifs
  · split
    · simp
    · dsimp only
      split <;> simp
  · simp

/-- After a failed `Group.Compact`, an iteration repairs, marks, publishes the
error wrapped with the group's key, or panics. -/
theorem handleGroupError_outcome (g : Group) (trace : Trace) (err : Error) :
    (handleGroupError pb c g trace err).2 ∈
      [.repaired, .markedNoCompact, .failed (.wrap s!"group {g.key}" err), .panicked] := by
  unfold handleGroupError
  split_ifs
  · dsimp only
    split
    · simp
    · exact List.mem_cons_of_mem _ (skipOutOfOrderChunks_outcome pb c g _ err)
  · exact List.mem_cons_of_mem _ (skipOutOfOrderChunks_outcome pb c g trace err)

/-- An iteration is a success exactly when its `Group.Compact` succeeded, and
then makes no other call; it publishes only the error of its `Group.Compact`,
wrapped with the group's key. -/
theorem compactGroup_outcome (g : Group) (trace : Trace) :
    (∀ shouldRerun, (compactGroup pb c g trace).2 = .compacted shouldRerun →
      ∃ ids, Group.Compact pb.backend g trace = ((compactGroup pb c g trace).1, .ok (shouldRerun, ids))) ∧
    ∀ published, (compactGroup pb c g trace).2 = .failed published →
      ∃ err, (Group.Compact pb.backend g trace).2 = .error err ∧ published = .wrap s!"group {g.key}" err := by
  unfold compactGroup
  dsimp only
  split
  · rename_i shouldRerun ids compacted
    exact ⟨fun _ same => ⟨ids, by cases same; exact Prod.ext rfl compacted⟩, fun _ => nofun⟩
  · rename_i err failed
    have outcome := handleGroupError_outcome pb c g (Group.Compact pb.backend g trace).1 err
    simp only [List.mem_cons, List.not_mem_nil, or_false] at outcome
    constructor
    · intro shouldRerun compacted
      rcases outcome with same | same | same | same <;> rw [compacted] at same <;> cases same
    · intro published publishedEq
      rcases outcome with same | same | same | same <;> rw [publishedEq] at same <;> cases same
      exact ⟨err, failed, rfl⟩

end Worker

/-! ## Where the history of a pass comes from -/

/-- Whether the main goroutine of a pass is past the grouping. -/
def pastGrouping : Main → Bool
  | .sendGroups _ | .waitWorkers | .failed _ | .finished | .rerun => true
  | _ => false

/-- The errors `Compact` returns before sending any group: the error of the
sync, of the garbage collection or of the grouper, wrapped once. -/
def EarlyError (pb : PassBackend) (err : Error) : Prop :=
  (∃ trace cause, pb.syncMetas trace = some cause ∧ err = .wrap "sync" cause) ∨
  (∃ trace cause, pb.garbageCollect trace = some cause ∧ err = .wrap "garbage" cause) ∨
  (∃ trace cause, pb.groups (pb.metas trace) = .error cause ∧ err = .wrap "build compaction groups" cause)

/-- An error a worker sends on `errChan`: the error of a compaction of a group
with more than one block, wrapped with the group's key, with its origin among
that compaction's calls. -/
def GroupError (pb : PassBackend) (err : Error) : Prop :=
  ∃ g trace calls cause, singleBlock pb.backend.sortSlice g = false ∧ err = .wrap s!"group {g.key}" cause ∧
    Group.Compact pb.backend g trace = (trace ++ calls, .error cause) ∧ ErrorOrigin g calls cause

/-- What the history of a reachable pass records about panics, its groups and
an early return. -/
structure PassProvenance (pb : PassBackend) (c : BucketCompactor) (s : Pass) : Prop where
  /-- A worker that panicked stays panicked. -/
  panicked : (∃ result ∈ s.results, result.2 = .panicked) → Worker.panicked ∈ s.workers
  /-- The groups are what the grouper built. -/
  grouped : pastGrouping s.main = true → ∃ trace, pb.groups (pb.metas trace) = .ok s.groups
  /-- An early return returns the error of the sync, the collection or the grouper. -/
  returned : ∀ err, s.main = .returned err → EarlyError pb err

section Steps

variable {pb : PassBackend} {c : BucketCompactor}

theorem panicked_step {s s' : Pass}
    (holds : (∃ result ∈ s.results, result.2 = .panicked) → Worker.panicked ∈ s.workers)
    (step : Step pb c s s') :
    (∃ result ∈ s'.results, result.2 = .panicked) → Worker.panicked ∈ s'.workers := by
  cases step with
  | sendGroup _ _ ready | exit _ ready | publish ready _ =>
    intro panicked
    simpa using ready.mem_iff.mp (holds panicked)
  | @iterate g _ ready =>
    rintro ⟨result, mem, panicked⟩
    rcases List.mem_append.mp mem with old | new
    · have kept := ready.mem_iff.mp (holds ⟨result, old, panicked⟩)
      exact List.mem_cons_of_mem _ ((List.mem_cons.mp kept).resolve_left nofun)
    · obtain rfl := List.mem_singleton.mp new
      simp only at panicked
      rw [panicked]
      exact List.mem_cons_self _ _
  | _ => exact holds

theorem grouped_step {s s' : Pass}
    (holds : pastGrouping s.main = true → ∃ trace, pb.groups (pb.metas trace) = .ok s.groups)
    (step : Step pb c s s') :
    pastGrouping s'.main = true → ∃ trace, pb.groups (pb.metas trace) = .ok s'.groups := by
  cases step with
  | syncFailed | synced | collectFailed | collected | groupingFailed => exact nofun
  | grouped _ built => exact fun _ => ⟨_, built⟩
  | skipGroup main | receiveError main | sendGroup main | closeGroups main | join main =>
    exact fun _ => holds (by simp [main, pastGrouping])
  | _ => exact holds

theorem returned_step {s s' : Pass} (holds : ∀ err, s.main = .returned err → EarlyError pb err)
    (step : Step pb c s s') : ∀ err, s'.main = .returned err → EarlyError pb err := by
  cases step with
  | syncFailed _ failed => rintro _ ⟨⟩; exact .inl ⟨_, _, failed, rfl⟩
  | collectFailed _ failed => rintro _ ⟨⟩; exact .inr (.inl ⟨_, _, failed, rfl⟩)
  | groupingFailed _ failed => rintro _ ⟨⟩; exact .inr (.inr ⟨_, _, failed, rfl⟩)
  | synced | collected | grouped | skipGroup | receiveError | sendGroup | closeGroups => nofun
  | join =>
    intro err returned
    unfold joined at returned
    split_ifs at returned
  | _ => exact holds

theorem PassProvenance.step {s s' : Pass} (holds : PassProvenance pb c s) (step : Step pb c s s') :
    PassProvenance pb c s' where
  panicked := panicked_step holds.panicked step
  grouped := grouped_step holds.grouped step
  returned := returned_step holds.returned step

theorem PassProvenance.start (trace : Trace) : PassProvenance pb c (Pass.start c trace) where
  panicked := by simp [Pass.start]
  grouped := by simp [Pass.start, pastGrouping]
  returned := by simp [Pass.start]

theorem passProvenance_of_reaches {trace : Trace} {s : Pass} (reach : Reaches pb c trace s) :
    PassProvenance pb c s :=
  Reaches.invariant (PassProvenance.start trace) (fun holds step => holds.step step) reach

end Steps

/-! ## The last pass of the loop -/

section Loop

variable {pb : PassBackend} {c : BucketCompactor}

theorem failed_of_published {outcome : GroupOutcome} {err : Error}
    (published : outcome.published = some err) : outcome = .failed err := by
  cases outcome <;> cases published
  rfl

/-- The outcomes that end the loop: nothing published, nothing to rerun, no panic. -/
theorem compacted_false_of_quiet {outcome : GroupOutcome} (unpublished : outcome.published = none)
    (kept : outcome.rerun = false) (alive : outcome ≠ .panicked) : outcome = .compacted false := by
  cases outcome <;> simp_all [GroupOutcome.published, GroupOutcome.rerun]

/-- A group sent on `groupChan` has more than one block. -/
theorem multiBlock_of_sent {trace : Trace} {s : Pass} {g : Group} (reach : Reaches pb c trace s)
    (sent : g ∈ s.sent) : singleBlock pb.backend.sortSlice g = false := by
  have filtered := (Reaches.invariant_holds reach).phase.sent_prefix.subset sent
  simp only [sendable, List.mem_filter] at filtered
  simpa using filtered.2

/-- Every error a worker sent on `errChan` is a group error. -/
theorem groupError_of_published {trace : Trace} {s : Pass} {err : Error}
    (reach : Reaches pb c trace s) (mem : err ∈ s.published) : GroupError pb err := by
  have holds := Reaches.invariant_holds reach
  obtain ⟨result, made, published⟩ :=
    List.mem_filterMap.mp (holds.reported.subset (List.mem_append_left _ mem))
  obtain ⟨t, _, -, ran, -⟩ := reach.iterations.2 result made
  obtain ⟨cause, compactFailed, rfl⟩ :=
    (compactGroup_outcome pb c result.1 t).2 err ((congrArg Prod.snd ran).trans (failed_of_published published))
  obtain ⟨calls, ranCalls, origin⟩ := Compact_origin pb.backend result.1 t compactFailed
  have sent : result.1 ∈ s.sent :=
    holds.handed.subset (List.mem_append_left _ (List.mem_map_of_mem _ made))
  exact ⟨result.1, t, calls, cause, multiBlock_of_sent reach sent, rfl,
    Prod.ext ranCalls compactFailed, origin⟩

/-- Whatever the scheduling of its passes, `BucketCompactor.Compact` returns
an error only as the error of the sync, the garbage collection or the grouper
wrapped once, or as a non-empty multi-error of group errors: errors of a
compaction of a group with more than one block, wrapped with the group's key
and traced to their origin among the calls of that compaction. -/
theorem compact_returns_traced_errors {trace : Trace} {err : Error}
    (runs : CompactRuns pb c trace (some err)) :
    EarlyError pb err ∨ ∃ groupErrs, err = .nonNilMultiRootError groupErrs ∧ groupErrs ≠ [] ∧
      ∀ groupErr ∈ groupErrs, GroupError pb groupErr := by
  generalize returned : some err = result at runs
  induction runs with
  | returned reach main =>
    cases returned
    exact .inl ((passProvenance_of_reaches reach).returned _ main)
  | @failed _ s groupErrs reach main =>
    cases returned
    have holds := Reaches.invariant_holds reach
    have phase := holds.phase
    simp only [Pass.Phase, main] at phase
    obtain ⟨-, ⟨-, drained, -⟩, rfl, nonempty⟩ := phase
    have collected := holds.collected
    rw [drained, List.append_nil] at collected
    exact .inr ⟨_, rfl, nonempty, fun groupErr mem => groupError_of_published reach (collected ▸ mem)⟩
  | finished => cases returned
  | rerun _ _ _ next => exact next returned

/-- A pass that ends the loop compacted, once each, exactly the groups with
more than one block the grouper built, and every iteration of it was a
`Group.Compact` that succeeded, at its point of the pass, without asking for
another pass. -/
theorem finished_pass {trace : Trace} {s : Pass} (reach : Reaches pb c trace s)
    (finished : s.main = .finished) :
    (∃ t, pb.groups (pb.metas t) = .ok s.groups) ∧
    (s.results.map Prod.fst).Perm (sendable pb.backend.sortSlice s.groups) ∧
    ∀ result ∈ s.results, result.2 = .compacted false ∧
      ∃ before calls ids, trace <+: before ∧ before ++ calls <+: s.trace ∧
        Group.Compact pb.backend result.1 before = (before ++ calls, .ok (false, ids)) := by
  have holds := Reaches.invariant_holds reach
  have provenance := passProvenance_of_reaches reach
  have phase := holds.phase
  simp only [Pass.Phase, finished] at phase
  obtain ⟨⟨-, all⟩, ⟨-, drained, exited⟩, noErrs, allFinished⟩ := phase
  have idle : ∀ w ∈ s.workers, w.holding = none ∧ w.pending = none ∧ w ≠ .panicked :=
    fun w mem => by simp [exited w mem, Worker.holding, Worker.pending]
  have collected := holds.collected
  rw [drained, noErrs] at collected
  have quiet : s.results.filterMap (·.2.published) = [] := by
    simpa [← collected, List.filterMap_eq_nil_iff.mpr fun w mem => (idle w mem).2.1] using
      holds.reported.symm
  have kept : ∀ result ∈ s.results, result.2.rerun = false := by
    rw [holds.finished, List.all_eq_true] at allFinished
    simpa using allFinished
  refine ⟨provenance.grouped (by simp [finished, pastGrouping]), ?_, fun result mem => ?_⟩
  · rw [← all.resolve_right (· noErrs)]
    simpa [List.filterMap_eq_nil_iff.mpr fun w mem => (idle w mem).1] using holds.handed
  · have compacted : result.2 = .compacted false := compacted_false_of_quiet
      (List.filterMap_eq_nil_iff.mp quiet result mem)
      (kept result mem)
      (fun panicked => (idle _ (provenance.panicked ⟨result, mem, panicked⟩)).2.2 rfl)
    obtain ⟨before, calls, start, ran, within⟩ := reach.iterations.2 result mem
    obtain ⟨ids, succeeded⟩ := (compactGroup_outcome pb c result.1 before).1 false (by rw [ran, compacted])
    exact ⟨compacted, before, calls, ids, start, within, by rw [succeeded, ran, compacted]⟩

/-- Whatever the scheduling of its passes, `BucketCompactor.Compact` returns
nil only after a last pass, from the trace `start`, that compacted, once
each, exactly the groups with more than one block that the grouper built:
every iteration of that pass ended as `.compacted false`, its `Group.Compact`
at that point of the pass succeeded without asking for another pass, and no
worker failed, panicked, repaired a block or marked one for no compaction. -/
theorem compact_returns_nil_after_complete_pass {trace : Trace} (runs : CompactRuns pb c trace none) :
    ∃ start s, Reaches pb c start s ∧ s.main = .finished ∧
      (∃ t, pb.groups (pb.metas t) = .ok s.groups) ∧
      (s.results.map Prod.fst).Perm (sendable pb.backend.sortSlice s.groups) ∧
      ∀ result ∈ s.results, result.2 = .compacted false ∧
        ∃ before calls ids, start <+: before ∧ before ++ calls <+: s.trace ∧
          Group.Compact pb.backend result.1 before = (before ++ calls, .ok (false, ids)) := by
  generalize returned : none = result at runs
  induction runs with
  | returned | failed => cases returned
  | finished reach main => exact ⟨_, _, reach, main, finished_pass reach main⟩
  | rerun _ _ _ next => exact next returned

end Loop

/-! ## Sample loops

One worker and the group `passGroup`, under a planner that finds nothing to
compact, and under a planner that fails. -/

/-- `passGroup` under a planner with the answer `plan`. -/
def plannedPassBackend (plan : Except Error (List Meta)) : PassBackend :=
  { samplePassBackend none with backend := { sampleBackend [] [] with planner := ⟨fun _ _ => plan⟩ } }

/-- The calls of the pass over `passGroup` up to its compaction. -/
def plannedPassTrace (plan : Except Error (List Meta)) : Trace :=
  (compactGroup (plannedPassBackend plan) singleWorker passGroup [.syncMetas none, .garbageCollect none]).1

/-- The pass over `passGroup` whose planner found nothing to compact, after the join. -/
def quietPassEnd : Pass where
  main := .finished
  workers := [.exited]
  groupChanClosed := true
  errChan := []
  finishedAllGroups := true
  groupErrs := []
  trace := plannedPassTrace (.ok [])
  groups := [passGroup]
  sent := [passGroup]
  results := [(passGroup, .compacted false)]
  published := []

theorem compact_returns_nil_after_complete_pass_of_quiet_planner :
    CompactRuns (plannedPassBackend (.ok [])) singleWorker [] none ∧
    ∃ start s, Reaches (plannedPassBackend (.ok [])) singleWorker start s ∧ s.main = .finished ∧
      (∃ t, (plannedPassBackend (.ok [])).groups ((plannedPassBackend (.ok [])).metas t) = .ok s.groups) ∧
      (s.results.map Prod.fst).Perm (sendable insertionSortSlice s.groups) ∧
      ∀ result ∈ s.results, result.2 = .compacted false ∧
        ∃ before calls ids, start <+: before ∧ before ++ calls <+: s.trace ∧
          Group.Compact (plannedPassBackend (.ok [])).backend result.1 before =
            (before ++ calls, .ok (false, ids)) :=
  have runs : CompactRuns (plannedPassBackend (.ok [])) singleWorker [] none :=
    @CompactRuns.finished _ _ _ quietPassEnd (.tail (.tail (.tail (.tail (.tail (.tail (.tail
      (.single (.synced rfl rfl)) (.collected rfl rfl)) (.grouped rfl rfl)) (.sendGroup rfl rfl (.refl _)))
      (.iterate (.refl _) rfl)) (.closeGroups rfl)) (.exit rfl (.refl _))) (.join rfl (by simp))) rfl
  ⟨runs, compact_returns_nil_after_complete_pass runs⟩

/-- The error the worker publishes when the planner fails on `passGroup`. -/
def plannerGroupError : Error :=
  .wrap s!"group {passGroup.key}" (.wrap "plan compaction" (.new "planner unavailable"))

/-- The pass over `passGroup` whose planner failed, after the join. -/
def plannerFailedPassEnd : Pass where
  main := .failed [plannerGroupError]
  workers := [.exited]
  groupChanClosed := true
  errChan := []
  finishedAllGroups := true
  groupErrs := [plannerGroupError]
  trace := plannedPassTrace (.error (.new "planner unavailable"))
  groups := [passGroup]
  sent := [passGroup]
  results := [(passGroup, .failed plannerGroupError)]
  published := [plannerGroupError]

theorem compact_returns_traced_errors_of_failed_planner :
    CompactRuns (plannedPassBackend (.error (.new "planner unavailable"))) singleWorker []
      (some (.nonNilMultiRootError [plannerGroupError])) ∧
    (EarlyError (plannedPassBackend (.error (.new "planner unavailable")))
        (.nonNilMultiRootError [plannerGroupError]) ∨
      ∃ groupErrs, Error.nonNilMultiRootError [plannerGroupError] = .nonNilMultiRootError groupErrs ∧
        groupErrs ≠ [] ∧
        ∀ groupErr ∈ groupErrs, GroupError (plannedPassBackend (.error (.new "planner unavailable"))) groupErr) :=
  have runs : CompactRuns (plannedPassBackend (.error (.new "planner unavailable"))) singleWorker []
      (some (.nonNilMultiRootError [plannerGroupError])) :=
    @CompactRuns.failed _ _ _ plannerFailedPassEnd _ (.tail (.tail (.tail (.tail (.tail (.tail (.tail
      (.single (.synced rfl rfl)) (.collected rfl rfl)) (.grouped rfl rfl)) (.sendGroup rfl rfl (.refl _)))
      (.iterate (.refl _) rfl)) (.closeGroups rfl)) (.publish (.refl _) (by decide))) (.join rfl (by simp))) rfl
  ⟨runs, compact_returns_traced_errors runs⟩

/-! ## The send on `errChan` -/

/-- `errChan` is made with a buffer of `c.concurrency` errors, one per worker,
and a worker sends at most once: in every interleaving of a pass, a worker
about to send its error finds room in the buffer, so its send never blocks and
it can always take its step. -/
theorem worker_error_send_never_blocks {pb : PassBackend} {c : BucketCompactor} {trace : Trace}
    {s : Pass} {err : Error} (reach : Reaches pb c trace s) (publishing : Worker.publishing err ∈ s.workers) :
    s.errChan.length < c.concurrency ∧
      ∃ s', Step pb c s s' ∧ s'.errChan = s.errChan ++ [err] ∧ s'.published = s.published ++ [err] := by
  have room := (Reaches.invariant_holds reach).room publishing
  obtain ⟨_, ready⟩ := perm_cons_of_mem publishing
  exact ⟨room, _, .publish ready room, rfl, rfl⟩

/-- The pass over `passGroup` whose planner failed, right after the worker's
iteration: the worker is about to send its error. -/
def plannerFailedIteration : Pass :=
  { plannerFailedPassEnd with
    main := .sendGroups []
    workers := [.publishing plannerGroupError]
    groupChanClosed := false
    groupErrs := []
    published := [] }

theorem worker_error_send_never_blocks_of_failed_planner :
    Reaches (plannedPassBackend (.error (.new "planner unavailable"))) singleWorker []
      plannerFailedIteration ∧
    Worker.publishing plannerGroupError ∈ plannerFailedIteration.workers ∧
    plannerFailedIteration.errChan.length < singleWorker.concurrency ∧
      ∃ s', Step (plannedPassBackend (.error (.new "planner unavailable"))) singleWorker
          plannerFailedIteration s' ∧
        s'.errChan = plannerFailedIteration.errChan ++ [plannerGroupError] ∧
        s'.published = plannerFailedIteration.published ++ [plannerGroupError] :=
  have reach : Reaches (plannedPassBackend (.error (.new "planner unavailable"))) singleWorker []
      plannerFailedIteration :=
    .tail (.tail (.tail (.tail (.single (.synced rfl rfl)) (.collected rfl rfl)) (.grouped rfl rfl))
      (.sendGroup rfl rfl (.refl _))) (@Step.iterate _ _ _ passGroup _ (.refl _) rfl)
  have publishing : Worker.publishing plannerGroupError ∈ plannerFailedIteration.workers :=
    List.mem_singleton_self _
  ⟨reach, publishing, worker_error_send_never_blocks reach publishing⟩

end Thanos.Compact.CompactorLoop
