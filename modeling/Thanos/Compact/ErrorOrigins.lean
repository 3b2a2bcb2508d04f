import Thanos.Compact.OutOfOrderChunks

/-!
# Where the errors of a group compaction come from

A worker of `BucketCompactor.Compact` acts on the error of `Group.Compact` by
its type: it repairs the block of an `Issue347Error`, marks the block of an
`OutOfOrderChunksError` for no compaction, and the orchestrator retries or
halts on the other two types.  This module follows every error `Group.Compact`
can return back to the call it came from (`ErrorOrigin`): it is a `HaltError`,
what `retry` made of an error, the error of one collaborator's answer wrapped
once, the verdict of the index check on a block of the plan that the same
run downloaded, or the error of the `recover` after a panic.

The phases are taken one by one, each from the exits its run inversion lists;
the origin of an error of the download fan-out is a goroutine of the fan-out
(`FetchFailure`), which the plan then names.
-/

namespace Thanos.Compact.ErrorOrigins

open Thanos.Compact.Primitives
open Thanos.Compact.Errors
open Thanos.Compact.Metadata
open Thanos.Compact.CompactionGroup
open Thanos.Compact.Collaborators
open Thanos.Compact.GroupCompaction
open Thanos.Compact.CompactionPhases
open Thanos.Compact.CompactionFailures
open Thanos.Compact.OutOfOrderChunks

/-- Where an error of a group compaction comes from, among the calls `calls`
of its run. -/
inductive ErrorOrigin (cg : Group) (calls : Trace) : Error → Prop
  /-- A `HaltError`. -/
  | halted (err : Error) : ErrorOrigin cg calls (halt err)
  /-- What `retry` made of an error. -/
  | retried (err : Error) : ErrorOrigin cg calls (retry err)
  /-- The error of a collaborator's answer, wrapped once. -/
  | wrapped {ev : Event} {cause : Error} (message : String) (mem : ev ∈ calls)
      (answered : cause ∈ answerErrors ev) : ErrorOrigin cg calls (.wrap message cause)
  /-- The verdict of the index check on a block of the plan, downloaded in the run. -/
  | unhealthy {toCompact : List Meta} {meta : Meta} {stats : HealthStats} {err : Error}
      (planned : .plan cg.metasByMinTime (.ok toCompact) ∈ calls) (member : meta ∈ toCompact)
      (downloaded : .download meta.ulid none ∈ calls)
      (gathered : .gatherIndexHealthStats meta.ulid (.ok stats) ∈ calls)
      (checked : checkIndexHealth cg meta stats = some err) : ErrorOrigin cg calls err
  /-- The error of the deferred `recover`, naming the group's blocks, after a
  call of the run panicked. -/
  | recovered (sortSlice : SortSlice) (p : String) :
      ErrorOrigin cg calls (panickedWhileCompacting (cg.ids sortSlice) p)

theorem ErrorOrigin.mono {cg : Group} {calls calls' : Trace} {err : Error} (subset : calls ⊆ calls')
    (origin : ErrorOrigin cg calls err) : ErrorOrigin cg calls' err := by
  cases origin with
  | halted => exact .halted _
  | retried => exact .retried _
  | wrapped message mem answered => exact .wrapped message (subset mem) answered
  | unhealthy planned member downloaded gathered checked =>
    exact .unhealthy (subset planned) member (subset downloaded) (subset gathered) checked
  | recovered sortSlice p => exact .recovered sortSlice p

/-- How the goroutine of the download fan-out for `meta` failed with `err`,
among the calls `calls`. -/
def FetchFailure (cg : Group) (meta : Meta) (calls : Trace) (err : Error) : Prop :=
  (∃ cause, err = retry (.wrap s!"download block {meta.ulid}" cause)) ∨
  (∃ cause, .gatherIndexHealthStats meta.ulid (.error cause) ∈ calls ∧
    err = .wrap s!"gather index issues for block {meta.ulid}" cause) ∨
  (.download meta.ulid none ∈ calls ∧ ∃ stats, .gatherIndexHealthStats meta.ulid (.ok stats) ∈ calls ∧
    checkIndexHealth cg meta stats = some err)

theorem FetchFailure.mono {cg : Group} {meta : Meta} {calls calls' : Trace} {err : Error}
    (subset : calls ⊆ calls') (failure : FetchFailure cg meta calls err) :
    FetchFailure cg meta calls' err := by
  rcases failure with retried | ⟨cause, gathered, rfl⟩ | ⟨downloaded, stats, gathered, checked⟩
  exacts [.inl retried, .inr (.inl ⟨cause, subset gathered, rfl⟩),
    .inr (.inr ⟨subset downloaded, stats, subset gathered, checked⟩)]

/-- A failed goroutine of a block of the plan is an origin of the fan-out's error. -/
theorem FetchFailure.origin {cg : Group} {meta : Meta} {calls : Trace} {err : Error}
    {toCompact : List Meta} (planned : .plan cg.metasByMinTime (.ok toCompact) ∈ calls)
    (member : meta ∈ toCompact) (failure : FetchFailure cg meta calls err) : ErrorOrigin cg calls err := by
  rcases failure with ⟨cause, rfl⟩ | ⟨cause, gathered, rfl⟩ | ⟨downloaded, stats, gathered, checked⟩
  · exact .retried _
  · exact .wrapped _ gathered (by simp [answerErrors])
  · exact .unhealthy planned member downloaded gathered checked

section Phases

variable (backend : Backend) (cg : Group)

/-! ## The download fan-out -/

theorem verifyBlock_failure (trace : Trace) (meta : Meta) {err : Error}
    (failed : (verifyBlock backend cg trace meta).2 = some err) :
    ∃ calls, (verifyBlock backend cg trace meta).1 = trace ++ calls ∧ FetchFailure cg meta calls err := by
  simp only [verifyBlock] at failed ⊢
  rcases downloaded : backend.io.download trace meta.ulid with _ | cause
  · rcases gathered : backend.io.gatherIndexHealthStats (trace ++ [.download meta.ulid none])
      meta.ulid meta.minTime meta.maxTime with cause | stats <;> simp only [downloaded, gathered] at failed ⊢
    · exact ⟨_, List.append_assoc _ _ _, .inr (.inl ⟨cause, by simp, (Option.some.inj failed).symm⟩)⟩
    · exact ⟨_, List.append_assoc _ _ _, .inr (.inr ⟨by simp, stats, by simp, failed⟩)⟩
  · simp only [downloaded] at failed ⊢
    exact ⟨_, rfl, .inl ⟨cause, (Option.some.inj failed).symm⟩⟩

/-- `g.Wait()` returns the error of a goroutine of a block of the order. -/
theorem verifyBlocks_failure {trace : Trace} {order : List Meta} {err : Error}
    (failed : (verifyBlocks backend cg trace order).2 = some err) :
    ∃ meta ∈ order, ∃ fetches, (verifyBlocks backend cg trace order).1 = trace ++ fetches ∧
      FetchFailure cg meta fetches err := by
  induction order generalizing trace with
  | nil => cases failed
  | cons meta rest ih =>
    obtain ⟨later, extends_, -⟩ := verifyBlocks_adds backend cg (verifyBlock backend cg trace meta).1 rest
    obtain ⟨calls, verified, -⟩ := verifyBlock_adds backend cg trace meta
    simp only [verifyBlocks] at failed ⊢
    rcases first : (verifyBlock backend cg trace meta).2 with _ | first'
    · rw [first, Option.none_or] at failed
      obtain ⟨meta', member, fetches, eq, failure⟩ := ih failed
      exact ⟨meta', .tail _ member, calls ++ fetches, by rw [eq, verified, List.append_assoc],
        failure.mono (List.subset_append_right _ _)⟩
    · rw [first, Option.or_some, Option.some.injEq] at failed
      subst failed
      obtain ⟨calls', eq, failure⟩ := verifyBlock_failure backend cg trace meta first
      exact ⟨meta, List.mem_cons_self _ _, calls' ++ later, by rw [extends_, eq, List.append_assoc],
        failure.mono (List.subset_append_left _ _)⟩

/-! ## The merge and the output blocks -/

theorem mergeBlocks_halted {trace merged : Trace} {dirs : List Ulid} {err : Error}
    (failed : mergeBlocks backend cg trace dirs = (merged, .error err)) : ∃ cause, err = halt cause := by
  rcases mergeBlocks_cases backend cg trace dirs with ⟨_, ran⟩ | ⟨_, ran⟩ | ⟨_, ran⟩ <;>
    rw [failed, Prod.mk.injEq] at ran <;> cases ran.2
  exacts [⟨_, rfl⟩, ⟨_, rfl⟩]

theorem finalizeCompactedBlock_origin (toCompact : List Meta) (trace : Trace) (compID : Ulid)
    (newMeta : Meta) (err : Error) :
    (finalizeCompactedBlock backend cg toCompact trace compID newMeta).2 = some err →
      ∃ calls, (finalizeCompactedBlock backend cg toCompact trace compID newMeta).1 = trace ++ calls ∧
        ErrorOrigin cg calls err := by
  unfold finalizeCompactedBlock
  dsimp only
  split
  · rintro ⟨⟩
    exact ⟨_, rfl, .halted _⟩
  split
  · rename_i cause injected
    rintro ⟨⟩
    exact ⟨_, List.append_assoc _ _ _, .wrapped _ (List.mem_append_right _ (List.mem_singleton_self _))
      (by simp [answerErrors, injected])⟩
  split
  · rintro ⟨⟩
  · intro failed
    obtain ⟨_, -, rfl⟩ := Option.map_eq_some'.mp failed
    exact ⟨_, List.append_assoc _ _ _, .halted _⟩

theorem validateCompactedBlock_origin (toCompact : List Meta) (trace : Trace) (compID : Ulid)
    (err : Error) :
    (validateCompactedBlock backend cg toCompact trace compID).2 = some err →
      ∃ calls, (validateCompactedBlock backend cg toCompact trace compID).1 = trace ++ calls ∧
        ErrorOrigin cg calls err := by
  unfold validateCompactedBlock
  dsimp only
  split
  · rename_i cause removed
    rintro ⟨⟩
    exact ⟨_, rfl, .wrapped _ (List.mem_singleton_self _) (by simp [answerErrors, removed])⟩
  split
  · rename_i cause read
    rintro ⟨⟩
    exact ⟨_, List.append_assoc _ _ _, .wrapped _ (List.mem_append_right _ (List.mem_singleton_self _))
      (by simp [answerErrors, read])⟩
  · intro failed
    obtain ⟨calls, eq, origin⟩ := finalizeCompactedBlock_origin backend cg _ _ _ _ err failed
    exact ⟨_, eq.trans ((List.append_assoc _ _ _).trans (List.append_assoc _ _ _)),
      origin.mono fun ev mem => by simp [mem]⟩

theorem uploadCompactedBlock_origin (toCompact : List Meta) (trace : Trace) (compID : Ulid)
    (err : Error) :
    (uploadCompactedBlock backend cg toCompact trace compID).2 = some err →
      ∃ calls, (uploadCompactedBlock backend cg toCompact trace compID).1 = trace ++ calls ∧
        ErrorOrigin cg calls err := by
  obtain ⟨checks, validated, -⟩ := validateCompactedBlock_adds backend cg toCompact trace compID
  unfold uploadCompactedBlock
  dsimp only
  split
  · rename_i failed
    rintro ⟨⟩
    exact validateCompactedBlock_origin backend cg toCompact trace compID _ failed
  rw [validated]
  split
  · rintro ⟨⟩
    exact ⟨_, List.append_assoc _ _ _, .retried _⟩
  · intro failed
    obtain ⟨_, -, rfl⟩ := Option.map_eq_some'.mp failed
    exact ⟨_, (List.append_assoc _ _ _).trans (List.append_assoc _ _ _), .retried _⟩

theorem uploadCompactedBlocks_origin (toCompact : List Meta) {trace : Trace} {compIDs : List Ulid}
    {err : Error} (failed : (uploadCompactedBlocks backend cg toCompact trace compIDs).2 = some err) :
    ∃ calls, (uploadCompactedBlocks backend cg toCompact trace compIDs).1 = trace ++ calls ∧
      ErrorOrigin cg calls err := by
  induction compIDs generalizing trace with
  | nil => cases failed
  | cons compID rest ih =>
    simp only [uploadCompactedBlocks] at failed ⊢
    rcases uploaded : (uploadCompactedBlock backend cg toCompact trace compID).2 with _ | first
    · simp only [uploaded] at failed ⊢
      obtain ⟨calls, eq, origin⟩ := ih failed
      obtain ⟨before, validated, -⟩ := uploadCompactedBlock_adds backend cg toCompact trace compID
      exact ⟨before ++ calls, by rw [eq, validated, List.append_assoc],
        origin.mono (List.subset_append_right _ _)⟩
    · simp only [uploaded] at failed ⊢
      cases failed
      exact uploadCompactedBlock_origin backend cg toCompact trace compID _ uploaded

/-- Every error of the deletion loop is made by `retry`. -/
theorem markSourcesForDeletion_retried {trace : Trace} {toCompact : List Meta} {err : Error}
    (failed : (markSourcesForDeletion backend cg trace toCompact).2 = some err) :
    ∃ cause, err = retry cause := by
  induction toCompact generalizing trace with
  | nil => cases failed
  | cons meta rest ih =>
    unfold markSourcesForDeletion at failed
    dsimp only at failed
    split at failed
    · cases failed
      exact ⟨_, rfl⟩
    · exact ih failed

/-! ## The compaction of a group -/

theorem PlanRun.origin {toCompact : List Meta} {trace : Trace}
    {run : Trace × Except Error (Bool × List Ulid)}
    (ran : PlanRun backend cg toCompact (trace ++ [.plan cg.metasByMinTime (.ok toCompact)]) run)
    {err : Error} (failed : run.2 = .error err) :
    ∃ calls, run.1 = trace ++ calls ∧ ErrorOrigin cg calls err := by
  obtain ⟨added, extends_, -⟩ := ran.adds
  have located : run.1 = trace ++ (.plan cg.metasByMinTime (.ok toCompact) :: added) := by
    rw [extends_, List.append_assoc, List.singleton_append]
  cases ran with
  | refused =>
    cases failed
    exact ⟨_, List.append_assoc _ _ _,
      .wrapped _ (List.mem_append_right _ (List.mem_singleton_self _)) (by simp [answerErrors])⟩
  | unverified _ fetched =>
    cases failed
    obtain ⟨meta, member, fetches, eq, failure⟩ := verifyBlocks_failure backend cg (by rw [fetched])
    rw [fetched] at eq
    subst eq
    exact ⟨.plan cg.metasByMinTime (.ok toCompact) :: .preCompactionCallback toCompact none :: fetches,
      by simp, (failure.mono fun ev mem => by simp [mem]).origin (by simp)
        ((backend.schedule.order_perm _ _).subset member)⟩
  | unmerged _ _ merged =>
    cases failed
    obtain ⟨_, rfl⟩ := mergeBlocks_halted backend cg merged
    exact ⟨_, located, .halted _⟩
  | @unuploaded _ _ _ compIDs _ _ fetched compacted _ uploaded =>
    cases failed
    obtain ⟨fetches, rfl, -⟩ := merged_segments backend cg fetched compacted
    obtain ⟨calls, eq, origin⟩ := uploadCompactedBlocks_origin backend cg toCompact (by rw [uploaded])
    rw [uploaded] at eq
    subst eq
    exact ⟨.plan cg.metasByMinTime (.ok toCompact) :: .preCompactionCallback toCompact none :: fetches ++
      [.getBlockPopulator none, .compact (toCompact.map (·.ulid)) (.ok compIDs)] ++ calls, by simp,
      origin.mono fun ev mem => by simp [mem]⟩
  | unmarked _ _ _ _ _ marked =>
    cases failed
    obtain ⟨_, rfl⟩ := markSourcesForDeletion_retried backend cg (by rw [marked])
    exact ⟨_, located, .retried _⟩
  | empty | succeeded => cases failed

theorem compact_origin (trace : Trace) {err : Error}
    (failed : (Group.compact backend cg trace).2 = .error err) :
    ∃ calls, (Group.compact backend cg trace).1 = trace ++ calls ∧ ErrorOrigin cg calls err := by
  have run := compact_run backend cg trace
  generalize Group.compact backend cg trace = outcome at run failed ⊢
  cases run with
  | overlapping =>
    cases failed
    exact ⟨[], by simp, .halted _⟩
  | unplanned =>
    cases failed
    exact ⟨_, rfl, .wrapped _ (List.mem_singleton_self _) (by simp [answerErrors])⟩
  | idle => cases failed
  | planned _ _ _ ran => exact PlanRun.origin backend cg ran failed

/-- Every error of `Group.Compact` has an origin among the calls of its run. -/
theorem Compact_origin (trace : Trace) {err : Error}
    (failed : (Group.Compact backend cg trace).2 = .error err) :
    ∃ calls, (Group.Compact backend cg trace).1 = trace ++ calls ∧ ErrorOrigin cg calls err := by
  rcases Compact_cases backend cg trace with ⟨cause, ran⟩ | ⟨_, _, _, p, _, _, _, ran⟩ | ⟨tail, ran, -⟩ <;>
    rw [ran] at failed ⊢
  · cases failed
    exact ⟨_, rfl, .wrapped _ (List.mem_singleton_self _) (by simp [answerErrors])⟩
  · cases failed
    exact ⟨_, List.append_assoc _ _ _, .recovered _ p⟩
  · obtain ⟨calls, eq, origin⟩ := compact_origin backend cg _ failed
    exact ⟨.mkdirAll none :: calls ++ tail, by rw [eq]; simp, origin.mono fun ev mem => by simp [mem]⟩

end Phases

/-! ## The package's own error types

Only the index check builds an `OutOfOrderChunksError` or an `Issue347Error`,
and no exit returns a collaborator's error unwrapped.  So an error of
`Group.Compact` that is an `OutOfOrderChunksError` itself, or whose cause is an
`Issue347Error` while no answer had one as cause, is the index check's verdict
on a block of the plan. -/

/-- The calls `calls` of a compaction of `cg` planned the block `id`,
downloaded it and gathered the health stats of its index, of which `diagnosis`
holds. -/
def Diagnosed (cg : Group) (calls : Trace) (id : Ulid) (diagnosis : HealthStats → Prop) : Prop :=
  ∃ toCompact, .plan cg.metasByMinTime (.ok toCompact) ∈ calls ∧ id ∈ toCompact.map (·.ulid) ∧
    .download id none ∈ calls ∧ ∃ stats, .gatherIndexHealthStats id (.ok stats) ∈ calls ∧ diagnosis stats

theorem retry_ne_outOfOrderChunkError (err inner : Error) (id : Ulid) :
    retry err ≠ outOfOrderChunkError inner id := by
  unfold retry
  split_ifs with halted
  · rintro rfl
    exact Bool.false_ne_true halted
  · nofun

/-- A halt error has no Issue-347 cause, so `retry` never makes one. -/
theorem isIssue347Error_retry (err : Error) : isIssue347Error (retry err) = false := by
  unfold retry
  split_ifs with halted
  · unfold isHaltError at halted
    unfold isIssue347Error
    generalize err.cause = cause at halted ⊢
    cases cause <;> simp_all [Error.isHaltErrorValue]
  · rfl

section Verdicts

variable {cg : Group}

/-- The index check returns an `OutOfOrderChunksError` only for out-of-order
chunks in an index without a critical error, and it names the checked block. -/
theorem checkIndexHealth_eq_outOfOrderChunkError {meta : Meta} {stats : HealthStats} {inner : Error}
    {id : Ulid} (checked : checkIndexHealth cg meta stats = some (outOfOrderChunkError inner id)) :
    id = meta.ulid ∧ stats.criticalErr = none ∧ stats.outOfOrderChunksErr ≠ none := by
  unfold checkIndexHealth at checked
  split at checked
  · cases checked
  · rename_i healthy chunks
    cases checked
    exact ⟨rfl, healthy, by simp [chunks]⟩
  · cases checked
  · split_ifs at checked
    cases checked
  · cases checked

/-- The index check returns an error with an Issue-347 cause only for chunks
outside the block's range in an index without a critical error or out-of-order
chunks, unless its out-of-order-labels diagnosis has one as cause. -/
theorem checkIndexHealth_issue347 {meta : Meta} {stats : HealthStats} {err : Error}
    (checked : checkIndexHealth cg meta stats = some err) (issue347 : isIssue347Error err = true)
    (clean : ∀ cause ∈ answerErrors (.gatherIndexHealthStats meta.ulid (.ok stats)),
      isIssue347Error cause = false) :
    (∃ inner, err = issue347Error inner meta.ulid) ∧ stats.criticalErr = none ∧
      stats.outOfOrderChunksErr = none ∧ stats.issue347OutsideChunksErr ≠ none := by
  unfold checkIndexHealth at checked
  split at checked
  · cases checked
    exact absurd issue347 Bool.false_ne_true
  · cases checked
    exact absurd issue347 Bool.false_ne_true
  · rename_i healthy ordered broken
    cases checked
    exact ⟨⟨_, rfl⟩, healthy, ordered, by simp [broken]⟩
  · rename_i labels
    split_ifs at checked
    cases checked
    rw [isIssue347Error_wrap, clean _ (by simp [answerErrors, labels])] at issue347
    cases issue347
  · cases checked

theorem ErrorOrigin.outOfOrder {calls : Trace} {inner : Error} {id : Ulid}
    (origin : ErrorOrigin cg calls (outOfOrderChunkError inner id)) :
    Diagnosed cg calls id fun stats => stats.criticalErr = none ∧ stats.outOfOrderChunksErr ≠ none := by
  generalize named : outOfOrderChunkError inner id = err at origin
  cases origin with
  | halted | wrapped | recovered => cases named
  | retried cause => exact (retry_ne_outOfOrderChunkError cause inner id named.symm).elim
  | unhealthy planned member downloaded gathered checked =>
    subst named
    obtain ⟨rfl, healthy, chunks⟩ := checkIndexHealth_eq_outOfOrderChunkError checked
    exact ⟨_, planned, List.mem_map_of_mem _ member, downloaded, _, gathered, healthy, chunks⟩

theorem ErrorOrigin.issue347 {calls : Trace} {err : Error} (origin : ErrorOrigin cg calls err)
    (issue347 : isIssue347Error err = true)
    (clean : ∀ ev ∈ calls, ∀ cause ∈ answerErrors ev, isIssue347Error cause = false) :
    ∃ inner id, err = issue347Error inner id ∧ Diagnosed cg calls id fun stats =>
      stats.criticalErr = none ∧ stats.outOfOrderChunksErr = none ∧ stats.issue347OutsideChunksErr ≠ none := by
  cases origin with
  | halted | recovered => exact absurd issue347 Bool.false_ne_true
  | retried cause => exact absurd ((isIssue347Error_retry cause).symm.trans issue347) Bool.false_ne_true
  | wrapped _ mem answered =>
    rw [isIssue347Error_wrap, clean _ mem _ answered] at issue347
    cases issue347
  | unhealthy planned member downloaded gathered checked =>
    obtain ⟨⟨inner, rfl⟩, healthy, ordered, broken⟩ :=
      checkIndexHealth_issue347 checked issue347 (clean _ gathered)
    exact ⟨inner, _, rfl, _, planned, List.mem_map_of_mem _ member, downloaded, _, gathered, healthy, ordered,
      broken⟩

end Verdicts

end Thanos.Compact.ErrorOrigins
