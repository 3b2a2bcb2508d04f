import Thanos.Compact.ErrorOrigins

/-!
# What a pass does to the bucket, under every interleaving

The calls a pass adds to the trace are calls of the syncer and the calls of
whole iterations of workers, each on a group the pass sent on `groupChan`
(`PassCalls`, built step by step in `Reaches.passCalls`), so every call of a
pass lies in one of them (`PassCalls.locate`).  What one group compaction
guarantees then holds of the whole pass, whichever worker ran which group and
in whatever order:

* a block is marked for deletion only by the compaction of a group the pass
  sent, after the calls of that compaction that justify it (`MarkJustified`);
* a block is marked for no compaction only right after a compaction that
  planned it, downloaded it, and whose index check found out-of-order chunks
  in it;
* the Issue-347 repair only receives the `Issue347Error` of the index check of
  a block the compaction planned and downloaded, unless a collaborator itself
  answered with an error whose cause is an `Issue347Error`.

The marks of `GarbageCollect` and of the repair are behind the oracles of a
pass, which record one call each; `MetaSyncer` models the former and
`Issue347Repair` the latter, whose mark of the repaired block it justifies
separately.
-/

namespace Thanos.Compact.PassSafety

open Thanos.Compact.Primitives
open Thanos.Compact.Errors
open Thanos.Compact.Metadata
open Thanos.Compact.CompactionGroup
open Thanos.Compact.Collaborators
open Thanos.Compact.GroupCompaction
open Thanos.Compact.CompactionPhases
open Thanos.Compact.CompactionSafety
open Thanos.Compact.CompactionFailures
open Thanos.Compact.CompactionPasses
open Thanos.Compact.OutOfOrderChunks
open Thanos.Compact.ErrorOrigins

/-! ## The calls of a worker's iteration -/

/-- The calls of the main goroutine of a pass: those of the syncer. -/
def SyncerCall : Event → Prop
  | .syncMetas _ | .garbageCollect _ => True
  | _ => False

/-- The calls a worker makes after a failed `Group.Compact`. -/
def RepairCall : Event → Prop
  | .repairIssue347 _ _ | .markForNoCompact _ _ => True
  | _ => False

/-- The calls of a group compaction. -/
def GroupCall (ev : Event) : Prop :=
  ¬ SyncerCall ev ∧ ¬ RepairCall ev

theorem PlanCall.groupCall {toCompact : List Meta} {ev : Event} (call : PlanCall toCompact ev) :
    GroupCall ev := by
  cases ev <;> simp_all [PlanCall, VerificationCall, OutputCall, DeletionCall, GroupCall, SyncerCall,
    RepairCall]

section Group

variable (backend : Backend) (cg : Group)

theorem compact_adds (trace : Trace) : Adds GroupCall trace (Group.compact backend cg trace).1 := by
  have plan : ∀ {metas result}, GroupCall (.plan metas result) := by simp [GroupCall, SyncerCall, RepairCall]
  have run := compact_run backend cg trace
  generalize Group.compact backend cg trace = outcome at run ⊢
  cases run with
  | overlapping => exact .refl
  | unplanned | idle => exact .single plan
  | planned _ _ _ ran => exact (Adds.single plan).trans ((PlanRun.adds backend cg ran).mono fun _ => PlanCall.groupCall)

theorem Compact_adds (trace : Trace) : Adds GroupCall trace (Group.Compact backend cg trace).1 := by
  have made : ∀ {result}, GroupCall (.mkdirAll result) := by simp [GroupCall, SyncerCall, RepairCall]
  rcases Compact_cases backend cg trace with
    ⟨_, ran⟩ | ⟨before, _, _, _, compacted, -, -, ran⟩ | ⟨tail, ran, removals⟩ <;> rw [ran]
  · exact .single made
  · obtain ⟨added, extends_, kinds⟩ := compact_adds backend cg (trace ++ [.mkdirAll none])
    rw [compacted, List.append_assoc, List.append_cancel_left_eq] at extends_
    exact (Adds.single made).trans ⟨before, rfl, fun ev mem => kinds ev (by simp [← extends_, mem])⟩
  · refine (Adds.single made).trans ((compact_adds backend cg _).trans ⟨tail, rfl, fun ev mem => ?_⟩)
    obtain ⟨_, rfl⟩ := removals ev mem
    simp [GroupCall, SyncerCall, RepairCall]

end Group

section Worker

variable (pb : PassBackend) (c : BucketCompactor)

theorem outOfOrderChunksId_eq_some {err : Error} {id : Ulid} :
    outOfOrderChunksId err = some id ↔ ∃ inner, err = outOfOrderChunkError inner id := by
  cases err <;> simp [outOfOrderChunksId, outOfOrderChunkError]

/-- The no-compaction marking adds its call exactly for an out-of-order-chunks
error itself, with skipping on. -/
theorem skipOutOfOrderChunks_calls (g : Group) (trace : Trace) (err : Error) :
    (skipOutOfOrderChunks pb c g trace err).1 = trace ∨
      ∃ inner id, err = outOfOrderChunkError inner id ∧ c.skipBlocksWithOutOfOrderChunks = true ∧
        (skipOutOfOrderChunks pb c g trace err).1 =
          trace ++ [.markForNoCompact id (pb.markForNoCompact trace id)] := by
  unfold skipOutOfOrderChunks
  split_ifs with skipping
  · rcases named : outOfOrderChunksId err with _ | id
    · exact .inl rfl
    · obtain ⟨inner, rfl⟩ := outOfOrderChunksId_eq_some.mp named
      refine .inr ⟨inner, id, rfl, (Bool.and_eq_true _ _ ▸ skipping).2, ?_⟩
      dsimp only
      split <;> rfl
  · exact .inl rfl

/-- An error whose cause is an `Issue347Error` has no out-of-order-chunks cause. -/
theorem isIssue347Error_outOfOrderChunkError (inner : Error) (id : Ulid) :
    isIssue347Error (outOfOrderChunkError inner id) = false := rfl

/-- After a failed `Group.Compact`, a worker adds nothing, the repair of an
Issue-347 error, or the no-compaction mark of the block of an out-of-order
chunks error. -/
theorem handleGroupError_calls (g : Group) (trace : Trace) (err : Error) :
    (handleGroupError pb c g trace err).1 = trace ∨
    (isIssue347Error err = true ∧
      (handleGroupError pb c g trace err).1 = trace ++ [.repairIssue347 err (pb.repairIssue347 trace err)]) ∨
    ∃ inner id, err = outOfOrderChunkError inner id ∧ c.skipBlocksWithOutOfOrderChunks = true ∧
      (handleGroupError pb c g trace err).1 =
        trace ++ [.markForNoCompact id (pb.markForNoCompact trace id)] := by
  unfold handleGroupError
  split_ifs with issue347
  · dsimp only
    split
    · exact .inr (.inl ⟨issue347, rfl⟩)
    · rcases skipOutOfOrderChunks_calls pb c g _ err with same | ⟨inner, id, rfl, -⟩
      · exact .inr (.inl ⟨issue347, same⟩)
      · exact absurd issue347 (by simp [isIssue347Error_outOfOrderChunkError])
  · exact (skipOutOfOrderChunks_calls pb c g trace err).imp_right .inr

/-- One iteration of a worker: the calls of `Group.Compact`, then nothing, the
repair of its Issue-347 error, or the no-compaction mark of the block of its
out-of-order-chunks error. -/
theorem compactGroup_cases (g : Group) (trace : Trace) :
    (compactGroup pb c g trace).1 = (Group.Compact pb.backend g trace).1 ∨
    (∃ err, (Group.Compact pb.backend g trace).2 = .error err ∧ isIssue347Error err = true ∧
      (compactGroup pb c g trace).1 = (Group.Compact pb.backend g trace).1 ++
        [.repairIssue347 err (pb.repairIssue347 (Group.Compact pb.backend g trace).1 err)]) ∨
    ∃ inner id, (Group.Compact pb.backend g trace).2 = .error (outOfOrderChunkError inner id) ∧
      c.skipBlocksWithOutOfOrderChunks = true ∧
      (compactGroup pb c g trace).1 = (Group.Compact pb.backend g trace).1 ++
        [.markForNoCompact id (pb.markForNoCompact (Group.Compact pb.backend g trace).1 id)] := by
  unfold compactGroup
  dsimp only
  split
  · exact .inl rfl
  · rename_i err failed
    rcases handleGroupError_calls pb c g (Group.Compact pb.backend g trace).1 err with
      same | ⟨issue347, repaired⟩ | ⟨inner, id, rfl, skipping, marked⟩
    · exact .inl same
    · exact .inr (.inl ⟨err, failed, issue347, repaired⟩)
    · exact .inr (.inr ⟨inner, id, failed, skipping, marked⟩)

/-- An iteration adds the calls of a group compaction and at most one call of
a worker's repairs. -/
theorem compactGroup_adds (g : Group) (trace : Trace) :
    ∃ calls extra, (compactGroup pb c g trace).1 = trace ++ calls ++ extra ∧
      (∀ ev ∈ calls, GroupCall ev) ∧ ∀ ev ∈ extra, RepairCall ev := by
  obtain ⟨calls, compacted, kinds⟩ := Compact_adds pb.backend g trace
  rcases compactGroup_cases pb c g trace with same | ⟨_, -, -, extended⟩ | ⟨_, _, -, -, extended⟩
  · exact ⟨calls, [], by rw [same, compacted, List.append_nil], kinds, by simp⟩
  all_goals exact ⟨calls, _, by rw [extended, compacted], kinds, by simp [RepairCall]⟩

end Worker

/-! ## The calls of a pass -/

/-- How the calls a pass added to `trace` were made, oldest first: calls of the
syncer, and the calls of whole iterations of workers on groups of `sent`. -/
inductive PassCalls (pb : PassBackend) (c : BucketCompactor) (trace : Trace) (sent : List Group) :
    Trace → Prop
  | nil : PassCalls pb c trace sent []
  | syncer {added : Trace} {ev : Event} (earlier : PassCalls pb c trace sent added)
      (kind : SyncerCall ev) : PassCalls pb c trace sent (added ++ [ev])
  | iteration {added calls : Trace} {g : Group} {outcome : GroupOutcome}
      (earlier : PassCalls pb c trace sent added) (mem : g ∈ sent)
      (ran : compactGroup pb c g (trace ++ added) = (trace ++ added ++ calls, outcome)) :
      PassCalls pb c trace sent (added ++ calls)

section Pass

variable {pb : PassBackend} {c : BucketCompactor} {trace : Trace}

theorem PassCalls.mono {sent sent' : List Group} (subset : sent ⊆ sent') {added : Trace}
    (made : PassCalls pb c trace sent added) : PassCalls pb c trace sent' added := by
  induction made with
  | nil => exact .nil
  | syncer _ kind ih => exact ih.syncer kind
  | iteration _ mem ran ih => exact ih.iteration (subset mem) ran

/-- A worker holds only groups that were sent. -/
theorem sent_of_holding {s : Pass} {g : Group} {others : List Worker}
    (holds : s.Invariant pb c) (holding : s.workers.Perm (.compacting g :: others)) : g ∈ s.sent :=
  holds.handed.subset (List.mem_append_right _ (List.mem_filterMap.mpr
    ⟨.compacting g, holding.mem_iff.mpr (List.mem_cons_self _ _), rfl⟩))

/-- Every reachable state of a pass added to the trace calls of the syncer and
whole iterations on groups it sent. -/
theorem passCalls_of_reaches {s : Pass} (reach : Reaches pb c trace s) :
    ∃ added, s.trace = trace ++ added ∧ PassCalls pb c trace s.sent added := by
  induction reach with
  | refl => exact ⟨[], (List.append_nil _).symm, .nil⟩
  | @tail s s' reach step ih =>
    obtain ⟨added, traced, made⟩ := ih
    cases step with
    | syncFailed | synced | collectFailed | collected =>
      exact ⟨_, by rw [traced, List.append_assoc], made.syncer (by trivial)⟩
    | sendGroup => exact ⟨added, traced, made.mono (List.subset_append_left _ _)⟩
    | @iterate g _ holding =>
      obtain ⟨calls, extra, ran, -⟩ := compactGroup_adds pb c g s.trace
      have sent : g ∈ s.sent := sent_of_holding (Reaches.invariant_holds reach) holding
      rw [traced] at ran
      exact ⟨added ++ (calls ++ extra), by rw [traced, ran]; simp,
        .iteration made sent (Prod.ext (by rw [ran, List.append_assoc]) rfl)⟩
    | _ => exact ⟨added, traced, made⟩

/-- A call of a pass is a call of the syncer, or a call of one iteration of a
worker on a sent group, made after the calls `calls` of that iteration. -/
theorem PassCalls.locate {sent : List Group} {added before after : Trace} {ev : Event}
    (made : PassCalls pb c trace sent added) (split : added = before ++ ev :: after) :
    SyncerCall ev ∨ ∃ g ∈ sent, ∃ earlier calls rest outcome, before = earlier ++ calls ∧
      compactGroup pb c g (trace ++ earlier) = (trace ++ earlier ++ calls ++ ev :: rest, outcome) := by
  induction made generalizing before after with
  | nil => simp at split
  | syncer _ kind ih =>
    rcases append_eq_append_cons split with ⟨_, front, -⟩ | ⟨between, rfl, last⟩
    · exact ih front
    cases between with
    | nil =>
      obtain ⟨rfl, -⟩ := List.cons.inj last
      exact .inl kind
    | cons _ _ => simp at last
  | @iteration added _ g outcome _ mem ran ih =>
    rcases append_eq_append_cons split with ⟨_, front, -⟩ | ⟨between, rfl, rfl⟩
    · exact ih front
    · exact .inr ⟨g, mem, added, between, after, outcome, rfl, by rw [ran]; simp only [List.append_assoc]⟩

end Pass

/-! ## Marks for deletion -/

section Marks

variable (backend : Backend) (cg : Group)

theorem Compact_marksJustified (trace : Trace) :
    ∃ calls, (Group.Compact backend cg trace).1 = trace ++ calls ∧ MarksJustified cg calls := by
  have made : ∀ {calls}, MarksJustified cg calls → MarksJustified cg ([.mkdirAll none] ++ calls) :=
    fun marks => .append (.of_not_mark (by simp)) fun before id details result after split =>
      (marks before id details result after split).mono (List.subset_append_right _ _)
  rcases Compact_cases backend cg trace with
    ⟨_, ran⟩ | ⟨before, _, _, _, compacted, -, -, ran⟩ | ⟨tail, ran, removals⟩ <;> rw [ran]
  · exact ⟨_, rfl, .of_not_mark (by simp)⟩
  · obtain ⟨added, extended, marks⟩ := compact_marksJustified backend cg (trace ++ [.mkdirAll none])
    rw [compacted, List.append_assoc, List.append_cancel_left_eq] at extended
    exact ⟨[.mkdirAll none] ++ before, List.append_assoc _ _ _, made (.of_append (extended ▸ marks))⟩
  · obtain ⟨added, extended, marks⟩ := compact_marksJustified backend cg (trace ++ [.mkdirAll none])
    refine ⟨[.mkdirAll none] ++ added ++ tail, by rw [extended]; simp, (made marks).append_unmarked ?_⟩
    rintro ev mem id details result rfl
    obtain ⟨_, same⟩ := removals _ mem
    cases same

theorem compactGroup_marksJustified (pb : PassBackend) (c : BucketCompactor) (g : Group)
    (trace : Trace) :
    ∃ calls, (compactGroup pb c g trace).1 = trace ++ calls ∧ MarksJustified g calls := by
  obtain ⟨calls, compacted, marks⟩ := Compact_marksJustified pb.backend g trace
  rcases compactGroup_cases pb c g trace with same | ⟨_, -, -, extended⟩ | ⟨_, _, -, -, extended⟩
  · exact ⟨calls, by rw [same, compacted], marks⟩
  all_goals exact ⟨calls ++ _, by rw [extended, compacted, List.append_assoc], marks.append_unmarked (by simp)⟩

end Marks

/-- In every interleaving of a pass, every block marked for deletion was
marked by a worker's iteration on a group the pass sent, and the calls of that
iteration before the mark justify it: they planned the block and then merged
the plan into nothing while the block had no sample, or into output blocks
that were all uploaded and passed their post-compaction callback. -/
theorem pass_deletes_only_justified_sources {pb : PassBackend} {c : BucketCompactor} {trace : Trace}
    {s : Pass} (reach : Reaches pb c trace s) {before after : Trace} {id : Ulid} {details : String}
    {result : Option Error} (split : s.trace = trace ++ before ++ .markForDeletion id details result :: after) :
    ∃ g ∈ s.sent, ∃ earlier calls rest outcome, before = earlier ++ calls ∧
      compactGroup pb c g (trace ++ earlier) =
        (trace ++ earlier ++ calls ++ .markForDeletion id details result :: rest, outcome) ∧
      MarkJustified g calls id := by
  obtain ⟨added, traced, made⟩ := passCalls_of_reaches reach
  rw [traced, List.append_assoc, List.append_cancel_left_eq] at split
  rcases made.locate split with syncer | ⟨g, sent, earlier, calls, rest, outcome, rfl, ran⟩
  · exact syncer.elim
  obtain ⟨all, extended, marks⟩ := compactGroup_marksJustified pb c g (trace ++ earlier)
  have same : all = calls ++ .markForDeletion id details result :: rest := by simpa [ran] using extended.symm
  exact ⟨g, sent, earlier, calls, rest, outcome, rfl, ran, marks calls id details result rest same⟩

/-- The pass over `passGroup` marks block 1 after uploading block 3. -/
theorem pass_deletes_only_justified_sources_of_pass_end :
    Reaches (samplePassBackend none) singleWorker [] passEnd ∧
    passEnd.trace = [] ++ passTrace.take 19 ++
      .markForDeletion 1 "source of compacted block" none :: passTrace.drop 20 ∧
    ∃ g ∈ passEnd.sent, ∃ earlier calls rest outcome, passTrace.take 19 = earlier ++ calls ∧
      compactGroup (samplePassBackend none) singleWorker g ([] ++ earlier) =
        ([] ++ earlier ++ calls ++ .markForDeletion 1 "source of compacted block" none :: rest, outcome) ∧
      MarkJustified g calls 1 :=
  have split : passEnd.trace = [] ++ passTrace.take 19 ++
      .markForDeletion 1 "source of compacted block" none :: passTrace.drop 20 := by decide
  ⟨passEnd_reaches, split, pass_deletes_only_justified_sources passEnd_reaches split⟩

/-! ## Repairs and no-compaction marks -/

/-- A call of a worker's repairs in a pass ends an iteration on a sent group,
right after the calls of that group's failed `Group.Compact`: it repairs the
Issue-347 error, or marks for no compaction the block of the out-of-order
chunks error itself, with skipping on. -/
theorem repairCall_of_reaches {pb : PassBackend} {c : BucketCompactor} {trace : Trace} {s : Pass}
    (reach : Reaches pb c trace s) {before after : Trace} {ev : Event}
    (split : s.trace = trace ++ before ++ ev :: after) (repair : RepairCall ev) :
    ∃ g ∈ s.sent, ∃ earlier calls err, before = earlier ++ calls ∧
      Group.Compact pb.backend g (trace ++ earlier) = (trace ++ before, .error err) ∧
      ((isIssue347Error err = true ∧ ev = .repairIssue347 err (pb.repairIssue347 (trace ++ before) err)) ∨
        ∃ inner id, err = outOfOrderChunkError inner id ∧ c.skipBlocksWithOutOfOrderChunks = true ∧
          ev = .markForNoCompact id (pb.markForNoCompact (trace ++ before) id)) := by
  obtain ⟨added, traced, made⟩ := passCalls_of_reaches reach
  rw [traced, List.append_assoc, List.append_cancel_left_eq] at split
  rcases made.locate split with syncer | ⟨g, sent, earlier, calls, rest, outcome, rfl, ran⟩
  · cases ev <;> simp_all [SyncerCall, RepairCall]
  obtain ⟨compactCalls, compacted, kinds⟩ := Compact_adds pb.backend g (trace ++ earlier)
  have absent : ev ∉ compactCalls := fun mem => (kinds ev mem).2 repair
  have last := congrArg Prod.fst ran
  rcases compactGroup_cases pb c g (trace ++ earlier) with
    same | ⟨err, failed, issue347, extended⟩ | ⟨inner, id, failed, skipping, extended⟩
  · rw [same, compacted] at last
    simp only [List.append_assoc, List.append_cancel_left_eq] at last
    exact (absent (by simp [last])).elim
  all_goals
    rw [extended, compacted] at last
    simp only [List.append_assoc, List.append_cancel_left_eq] at last
    obtain ⟨rfl, rfl, rfl⟩ := append_singleton_eq_append_cons last absent
    refine ⟨g, sent, earlier, _, _, rfl, Prod.ext (by rw [compacted, List.append_assoc]) failed, ?_⟩
  · exact .inl ⟨issue347, rfl⟩
  · exact .inr ⟨inner, id, rfl, skipping, rfl⟩

/-- The pass over `passGroup` with skipping on, whose index check reports
out-of-order chunks in every block, right after its worker marked block 1 for
no compaction. -/
def markedPass : Pass where
  main := .sendGroups []
  workers := [.receiving]
  groupChanClosed := false
  errChan := []
  finishedAllGroups := false
  groupErrs := []
  trace := (compactGroup unorderedChunksBackend skippingWorker passGroup
    [.syncMetas none, .garbageCollect none]).1
  groups := [passGroup]
  sent := [passGroup]
  results := [(passGroup, .markedNoCompact)]
  published := []

theorem markedPass_reaches : Reaches unorderedChunksBackend skippingWorker [] markedPass :=
  .tail (.tail (.tail (.tail (.single (.synced rfl rfl)) (.collected rfl rfl)) (.grouped rfl rfl))
    (.sendGroup rfl rfl (.refl _))) (@Step.iterate _ _ _ passGroup _ (.refl _) rfl)

/-- In every interleaving of a pass, a block is marked for no compaction only
with skipping on, right after a worker's `Group.Compact` of a group the pass
sent failed with the `OutOfOrderChunksError` of that block, and that
compaction planned the block, downloaded it, and found out-of-order chunks and
no critical error in its index. -/
theorem pass_marks_no_compact_only_out_of_order_blocks {pb : PassBackend} {c : BucketCompactor}
    {trace : Trace} {s : Pass} (reach : Reaches pb c trace s) {before after : Trace} {id : Ulid}
    {result : Option Error} (split : s.trace = trace ++ before ++ .markForNoCompact id result :: after) :
    c.skipBlocksWithOutOfOrderChunks = true ∧ ∃ g ∈ s.sent, ∃ earlier calls inner, before = earlier ++ calls ∧
      Group.Compact pb.backend g (trace ++ earlier) = (trace ++ before, .error (outOfOrderChunkError inner id)) ∧
      Diagnosed g calls id fun stats => stats.criticalErr = none ∧ stats.outOfOrderChunksErr ≠ none := by
  obtain ⟨g, sent, earlier, calls, _, rfl, compacted, ⟨-, repaired⟩ | ⟨inner, _, rfl, skipping, marked⟩⟩ :=
    repairCall_of_reaches reach split trivial
  · cases repaired
  cases marked
  obtain ⟨calls', extended, origin⟩ := Compact_origin pb.backend g (trace ++ earlier) (by rw [compacted])
  simp only [compacted, List.append_assoc, List.append_cancel_left_eq] at extended
  subst extended
  exact ⟨skipping, g, sent, earlier, calls, inner, rfl, compacted, origin.outOfOrder⟩

/-- Block 1 is marked for no compaction after the compaction of `passGroup`
found out-of-order chunks in its index. -/
theorem pass_marks_no_compact_only_out_of_order_blocks_of_marked_pass :
    Reaches unorderedChunksBackend skippingWorker [] markedPass ∧
    markedPass.trace = [] ++ markedPass.trace.take 9 ++ [.markForNoCompact 1 none] ∧
    skippingWorker.skipBlocksWithOutOfOrderChunks = true ∧
    ∃ g ∈ markedPass.sent, ∃ earlier calls inner, markedPass.trace.take 9 = earlier ++ calls ∧
      Group.Compact unorderedChunksBackend.backend g ([] ++ earlier) =
        ([] ++ markedPass.trace.take 9, .error (outOfOrderChunkError inner 1)) ∧
      Diagnosed g calls 1 fun stats => stats.criticalErr = none ∧ stats.outOfOrderChunksErr ≠ none :=
  have split : markedPass.trace = [] ++ markedPass.trace.take 9 ++ [.markForNoCompact 1 none] := by decide
  ⟨markedPass_reaches, split, pass_marks_no_compact_only_out_of_order_blocks markedPass_reaches split⟩

/-- `samplePassBackend none` with an index check that reports chunks outside
the range of block 1. -/
def brokenIndexBackend : PassBackend :=
  { samplePassBackend none with
    backend := { (samplePassBackend none).backend with
      io := { (samplePassBackend none).backend.io with
        gatherIndexHealthStats := fun _ id _ _ =>
          .ok ⟨none, none, if id = 1 then some (.new "chunks outside the block range") else none, none,
            none⟩ } } }

/-- The pass over `passGroup` with `brokenIndexBackend`, right after its worker
repaired block 1. -/
def repairedPass : Pass where
  main := .sendGroups []
  workers := [.receiving]
  groupChanClosed := false
  errChan := []
  finishedAllGroups := false
  groupErrs := []
  trace := (compactGroup brokenIndexBackend singleWorker passGroup [.syncMetas none, .garbageCollect none]).1
  groups := [passGroup]
  sent := [passGroup]
  results := [(passGroup, .repaired)]
  published := []

theorem repairedPass_reaches : Reaches brokenIndexBackend singleWorker [] repairedPass :=
  .tail (.tail (.tail (.tail (.single (.synced rfl rfl)) (.collected rfl rfl)) (.grouped rfl rfl))
    (.sendGroup rfl rfl (.refl _))) (@Step.iterate _ _ _ passGroup _ (.refl _) rfl)

/-- In every interleaving of a pass, the Issue-347 repair only receives the
error of a worker's `Group.Compact` of a group the pass sent, made right
before it; when no collaborator answered that compaction with an error whose
cause is an `Issue347Error`, that error is the `Issue347Error` of a block the
compaction planned and downloaded, and whose index had chunks outside its
range and neither a critical error nor out-of-order chunks. -/
theorem pass_repairs_only_issue347_blocks {pb : PassBackend} {c : BucketCompactor} {trace : Trace}
    {s : Pass} (reach : Reaches pb c trace s) {before after : Trace} {err : Error} {result : Option Error}
    (split : s.trace = trace ++ before ++ .repairIssue347 err result :: after) :
    ∃ g ∈ s.sent, ∃ earlier calls, before = earlier ++ calls ∧
      Group.Compact pb.backend g (trace ++ earlier) = (trace ++ before, .error err) ∧
      ((∀ ev ∈ calls, ∀ cause ∈ answerErrors ev, isIssue347Error cause = false) →
        ∃ inner id, err = issue347Error inner id ∧
          Diagnosed g calls id fun stats => stats.criticalErr = none ∧ stats.outOfOrderChunksErr = none ∧
            stats.issue347OutsideChunksErr ≠ none) := by
  obtain ⟨g, sent, earlier, calls, _, rfl, compacted, ⟨issue347, repaired⟩ | ⟨_, _, -, -, marked⟩⟩ :=
    repairCall_of_reaches reach split trivial
  · cases repaired
    obtain ⟨calls', extended, origin⟩ := Compact_origin pb.backend g (trace ++ earlier) (by rw [compacted])
    simp only [compacted, List.append_assoc, List.append_cancel_left_eq] at extended
    subst extended
    exact ⟨g, sent, earlier, _, rfl, compacted, fun clean => origin.issue347 issue347 clean⟩
  · cases marked

/-- The error of the index check of block 1 is what the repair receives. -/
theorem pass_repairs_only_issue347_blocks_of_repaired_pass :
    let broken := issue347Error (.wrap "invalid, but reparable block 1" (.new "chunks outside the block range")) 1
    Reaches brokenIndexBackend singleWorker [] repairedPass ∧
    repairedPass.trace = [] ++ repairedPass.trace.take 9 ++ [.repairIssue347 broken none] ∧
    ∃ g ∈ repairedPass.sent, ∃ earlier calls, repairedPass.trace.take 9 = earlier ++ calls ∧
      Group.Compact brokenIndexBackend.backend g ([] ++ earlier) =
        ([] ++ repairedPass.trace.take 9, .error broken) ∧
      ((∀ ev ∈ calls, ∀ cause ∈ answerErrors ev, isIssue347Error cause = false) →
        ∃ inner id, broken = issue347Error inner id ∧
          Diagnosed g calls id fun stats => stats.criticalErr = none ∧ stats.outOfOrderChunksErr = none ∧
            stats.issue347OutsideChunksErr ≠ none) :=
  have split : repairedPass.trace = [] ++ repairedPass.trace.take 9 ++
      [.repairIssue347 (issue347Error (.wrap "invalid, but reparable block 1"
        (.new "chunks outside the block range")) 1) none] := by decide
  ⟨repairedPass_reaches, split, pass_repairs_only_issue347_blocks repairedPass_reaches split⟩

end Thanos.Compact.PassSafety
