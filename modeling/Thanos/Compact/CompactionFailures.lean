import Thanos.Compact.CompactionSafety

/-!
# Failures of a group compaction

What a failed run of `Group.compact` leaves behind and how its error is
classified.  The output blocks are validated and uploaded one after the
other, so a run that fails on the checks of an output block has already
uploaded every output block before it, and has marked no source block for
deletion.
-/

namespace Thanos.Compact.CompactionFailures

open Thanos.Compact.Primitives
open Thanos.Compact.Errors
open Thanos.Compact.Metadata
open Thanos.Compact.CompactionGroup
open Thanos.Compact.Collaborators
open Thanos.Compact.GroupCompaction
open Thanos.Compact.CompactionPhases
open Thanos.Compact.CompactionSafety

/-! ## Failing on an output block -/

/-- When a run of `Group.compact` fails on the checks of an output block
before its upload, that block is the `k`-th output of the compactor, exactly
the `k` outputs before it were uploaded, and no block was marked for deletion. -/
theorem compact_failed_validation_uploads_only_earlier_outputs (backend : Backend) (cg : Group)
    (trace : Trace) :
    ∀ added err dirs compIDs last compID,
      Group.compact backend cg trace = (trace ++ added, .error err) →
      .compact dirs (.ok compIDs) ∈ added →
      added.getLast? = some last → ValidationCall compID last →
      ∃ k, compIDs[k]? = some compID ∧ uploadedBlocks added = compIDs.take k ∧
        ∀ id details result, .markForDeletion id details result ∉ added := by
  intro added err dirs compIDs last compID ran merged ended validation
  obtain ⟨toCompact, -, planRun, -, -⟩ :=
    compact_of_planned_call backend cg (congrArg Prod.fst ran) merged fun _ _ => nofun
  generalize Group.compact backend cg trace = outcome at planRun ran
  cases planRun with
  | refused =>
    simp only [Prod.mk.injEq, List.append_assoc, List.singleton_append,
      List.append_cancel_left_eq] at ran
    simp [← ran.1] at merged
  | unverified _ fetched =>
    obtain ⟨fetches, rfl, checks⟩ := fetched_segments backend cg fetched
    simp only [Prod.mk.injEq, List.append_assoc, List.singleton_append,
      List.append_cancel_left_eq] at ran
    simp only [← ran.1, List.mem_cons, reduceCtorEq, false_or] at merged
    exact (checks _ merged).elim
  | @unmerged _ mergedTrace _ _ fetched failed =>
    obtain ⟨fetches, rfl, checks⟩ := fetched_segments backend cg fetched
    obtain ⟨tail, clean, rfl⟩ : ∃ tail, (∀ ev ∈ tail, ev ≠ .compact dirs (.ok compIDs)) ∧
        mergedTrace = trace ++ [.plan cg.metasByMinTime (.ok toCompact)] ++
          .preCompactionCallback toCompact none :: fetches ++ tail := by
      rcases mergeBlocks_cases backend cg _ (toCompact.map (·.ulid)) with
        ⟨_, once⟩ | ⟨_, once⟩ | ⟨_, once⟩ <;> rw [failed, Prod.mk.injEq] at once
      · exact ⟨_, by simp, once.1⟩
      · exact ⟨_, by simp, once.1⟩
      · cases once.2
    simp only [Prod.mk.injEq, List.append_assoc, List.singleton_append, List.cons_append,
      List.append_cancel_left_eq] at ran
    simp only [← ran.1, List.mem_cons, List.mem_append, reduceCtorEq, List.not_mem_nil,
      false_or] at merged
    exact merged.elim (fun fetch => (checks _ fetch : False).elim)
      fun later => (clean _ later rfl).elim
  | empty | succeeded => simp at ran
  | @unuploaded _ _ _ producedIDs _ _ fetched compacted _ failed =>
    obtain ⟨fetches, rfl, checks⟩ := merged_segments backend cg fetched compacted
    obtain ⟨outputs, loop, outputCalls⟩ := uploadCompactedBlocks_adds backend cg toCompact _ _
    have extends_ := loop
    rw [failed] at extends_
    dsimp only at extends_
    have shape : added = [.plan cg.metasByMinTime (.ok toCompact),
        .preCompactionCallback toCompact none] ++ fetches ++
        [.getBlockPopulator none, .compact (toCompact.map (·.ulid)) (.ok producedIDs)] ++ outputs := by
      rw [extends_, Prod.mk.injEq] at ran
      simpa using ran.1.symm
    subst shape
    have same : compIDs = producedIDs := by
      simp only [List.mem_append, List.mem_cons, reduceCtorEq, Event.compact.injEq,
        Except.ok.injEq, List.not_mem_nil, false_or, or_false] at merged
      rcases merged with (fetch | ⟨-, same⟩) | output
      · exact (checks _ fetch : False).elim
      · exact same
      · exact (outputCalls _ output : False).elim
    subst same
    rcases List.eq_nil_or_concat outputs with rfl | ⟨init, final, rfl⟩
    · simp only [List.append_nil, List.getLast?_append, List.getLast?_cons_cons,
        List.getLast?_singleton, Option.or_some, Option.some.injEq] at ended
      subst ended
      exact (validation : False).elim
    · simp only [List.concat_eq_append, List.getLast?_append, List.getLast?_singleton, Option.or_some,
        Option.some.injEq] at ended
      subst ended
      obtain ⟨k, found, uploaded⟩ := uploadCompactedBlocks_of_failed_validation backend cg loop
        (by rw [List.concat_eq_append, List.getLast?_concat]) validation
      refine ⟨k, found, ?_, fun id details result mem => ?_⟩
      · simp only [uploadedBlocks_append, uploadedBlocks_of_verification checks, uploaded]
        rfl
      · simp only [List.mem_append, List.mem_cons, reduceCtorEq, List.not_mem_nil, false_or,
          or_false] at mem
        rcases mem with fetch | output
        · exact checks _ fetch
        · exact outputCalls _ output
  | unmarked _ fetched compacted _ published deleted =>
    obtain ⟨lastDeletion, endedDeletion, deletion⟩ :=
      markSourcesForDeletion_last_of_failed backend cg deleted
    rw [Prod.mk.injEq] at ran
    rw [ran.1, List.getLast?_append, ended, Option.or_some, Option.some.injEq] at endedDeletion
    exact (validation.not_deletion (endedDeletion ▸ deletion)).elim

/-- Two output blocks where the tombstones of the second cannot be removed:
the run fails on that check after the first output block was uploaded. -/
theorem compact_uploads_before_failed_validation :
    let run := Group.compact (sampleBackend [sampleMeta 3 0 10, sampleMeta 4 10 20] [4])
      (sampleGroup [sampleMeta 1 0 10, sampleMeta 2 10 20]) []
    run.2 = .error (.wrap "remove tombstones" (.new "remove tombstones")) ∧
      .compact [1, 2] (.ok [3, 4]) ∈ run.1 ∧
      run.1.getLast? = some (.removeTombstones 4 (some (.new "remove tombstones"))) ∧
      .upload 3 none ∈ run.1 := by
  decide

theorem compact_failed_validation_at_broken_tombstones :
    let run := Group.compact (sampleBackend [sampleMeta 3 0 10, sampleMeta 4 10 20] [4])
      (sampleGroup [sampleMeta 1 0 10, sampleMeta 2 10 20]) []
    ∃ k, ([3, 4] : List Ulid)[k]? = some 4 ∧ uploadedBlocks run.1 = [3, 4].take k ∧
      ∀ id details result, .markForDeletion id details result ∉ run.1 :=
  compact_failed_validation_uploads_only_earlier_outputs
    (sampleBackend [sampleMeta 3 0 10, sampleMeta 4 10 20] [4])
    (sampleGroup [sampleMeta 1 0 10, sampleMeta 2 10 20]) [] _
    (.wrap "remove tombstones" (.new "remove tombstones")) [1, 2] [3, 4]
    (.removeTombstones 4 (some (.new "remove tombstones"))) 4 (by decide) (by decide) (by decide) rfl

/-! ## Failing on a publication -/

section Publication

variable (backend : Backend) (cg : Group)

/-- A failed upload or post-compaction callback ends `Group.compact` with its
error, wrapped and marked for retry. -/
theorem compact_of_failed_publication {trace added : Trace} {compID : Ulid} {err : Error}
    (ran : (Group.compact backend cg trace).1 = trace ++ added) :
    (.upload compID (some err) ∈ added →
      (Group.compact backend cg trace).2 =
        .error (retry (.wrap s!"upload of {compID} failed" err))) ∧
    (.postCompactionCallback compID (some err) ∈ added →
      (Group.compact backend cg trace).2 = .error (retry
        (.wrap s!"failed to run post compaction callback for result block {compID}" err))) := by
  constructor <;> intro mem <;>
    obtain ⟨_, _, planRun, extends_, mem'⟩ := compact_of_planned_call backend cg ran mem (by simp) <;>
    obtain ⟨_, _, _, loop, output, ended⟩ :=
      (@PlanRun.mem_late backend cg _ _ _ _ [] _ planRun extends_ mem' not_false).1 trivial
  · exact ended _ ((uploadCompactedBlocks_of_failed_call backend cg loop).1 output)
  · exact ended _ ((uploadCompactedBlocks_of_failed_call backend cg loop).2 output)

/-- A failed marking call makes `Group.compact` fail only through the marking
loop, which wraps its error twice and marks it for retry. -/
theorem compact_of_failed_mark {trace added : Trace} {id : Ulid} {details : String}
    {markErr err : Error} (ran : Group.compact backend cg trace = (trace ++ added, .error err))
    (failed : .markForDeletion id details (some markErr) ∈ added) :
    err = retry (.wrap "mark old block for deletion from bucket"
      (.wrap s!"mark block {id} for deletion from bucket" markErr)) := by
  obtain ⟨_, _, planRun, extends_, mem⟩ :=
    compact_of_planned_call backend cg (congrArg Prod.fst ran) failed (by simp)
  rcases (planRun.mem_late backend cg extends_ mem not_false).2 (List.mem_singleton_self id) with
    ⟨_, _, loop, deletion, ended⟩ | ⟨_, ended⟩ <;> rw [ran] at ended
  · exact Except.error.inj (ended _ (markSourcesForDeletion_of_failed_mark backend cg loop deletion))
  · cases ended

end Publication

/-! ## The first failure of the download fan-out

`g.Wait()` returns the error of the first goroutine that fails.  A goroutine
of the fan-out ends with its last call; `FailsWith cg ev err` says that a
goroutine whose last call is `ev` returns `err`. -/

/-- The error of a goroutine of the fan-out whose last call is `ev`. -/
def FailsWith (cg : Group) : Event → Error → Prop
  | .download id (some cause), err => err = retry (.wrap s!"download block {id}" cause)
  | .gatherIndexHealthStats id (.error cause), err =>
    err = .wrap s!"gather index issues for block {id}" cause
  | .gatherIndexHealthStats id (.ok stats), err =>
    ∃ meta : Meta, meta.ulid = id ∧ checkIndexHealth cg meta stats = some err
  | _, _ => False

/-- The checks of an index pass exactly when it has no critical, out-of-order
chunks or Issue-347 error, and no out-of-order labels unless malformed indexes
are accepted; which block it is does not matter. -/
theorem checkIndexHealth_eq_none_iff (cg : Group) (meta : Meta) (stats : HealthStats) :
    checkIndexHealth cg meta stats = none ↔
      stats.criticalErr = none ∧ stats.outOfOrderChunksErr = none ∧
        stats.issue347OutsideChunksErr = none ∧
        (stats.outOfOrderLabelsErr = none ∨ cg.acceptMalformedIndex = true) := by
  rcases stats with ⟨_ | _, _ | _, _ | _, _ | _, _⟩ <;> simp [checkIndexHealth]

/-- A goroutine whose index has out-of-order chunks and no critical error
returns an `OutOfOrderChunksError` naming its block. -/
theorem failsWith_outOfOrderChunks {cg : Group} {id : Ulid} {stats : HealthStats} {cause err : Error}
    (healthy : stats.criticalErr = none) (chunks : stats.outOfOrderChunksErr = some cause) :
    FailsWith cg (.gatherIndexHealthStats id (.ok stats)) err ↔
      err = outOfOrderChunkError
        (.wrap s!"blocks with out-of-order chunks are dropped from compaction:  {id}" cause) id := by
  constructor
  · rintro ⟨meta, rfl, checked⟩
    simp only [checkIndexHealth, healthy, chunks, Option.some.injEq] at checked
    exact checked.symm
  · rintro rfl
    exact ⟨⟨⟨id, Int64.ofInt 0, Int64.ofInt 0, 0, 0, []⟩, ⟨[], Int64.ofInt 0⟩⟩, rfl,
      by simp [checkIndexHealth, healthy, chunks]⟩

/-- A position in `front ++ back` lies in `front` or in `back`. -/
theorem append_eq_append_cons {front back before after : Trace} {ev : Event}
    (split : front ++ back = before ++ ev :: after) :
    (∃ rest, front = before ++ ev :: rest ∧ after = rest ++ back) ∨
      ∃ between, before = front ++ between ∧ back = between ++ ev :: after := by
  rcases List.append_eq_append_iff.mp split with ⟨between, before_eq, back_eq⟩ | ⟨between, rfl, tail⟩
  · exact .inr ⟨between, before_eq, back_eq⟩
  · cases between with
    | nil => exact .inr ⟨[], by simp, by simpa using tail.symm⟩
    | cons first rest =>
      obtain ⟨rfl, rfl⟩ := List.cons.inj tail
      exact .inl ⟨rest, rfl, rfl⟩

/-- A call that the calls `calls'` do not hold and that stands in
`calls' ++ [last]` is `last`. -/
theorem append_singleton_eq_append_cons {calls calls' rest : Trace} {ev last : Event}
    (split : calls' ++ [last] = calls ++ ev :: rest) (absent : ev ∉ calls') :
    calls = calls' ∧ ev = last ∧ rest = [] := by
  rcases append_eq_append_cons split with ⟨_, rfl, -⟩ | ⟨between, rfl, back⟩
  · exact (absent (by simp)).elim
  cases between with
  | nil =>
    obtain ⟨rfl, rfl⟩ := List.cons.inj back
    exact ⟨List.append_nil _, rfl, rfl⟩
  | cons _ _ => simp at back

section FanOut

variable (backend : Backend) (cg : Group)

/-- A goroutine of the fan-out: calls that cannot fail, then a last call that
fails exactly when the goroutine returns an error. -/
theorem verifyBlock_spec (trace : Trace) (meta : Meta) :
    ∃ calls last, (verifyBlock backend cg trace meta).1 = trace ++ calls ++ [last] ∧
      (∀ ev ∈ calls, ∀ err, ¬ FailsWith cg ev err) ∧
      (∀ err, (verifyBlock backend cg trace meta).2 = some err → FailsWith cg last err) ∧
      ((verifyBlock backend cg trace meta).2 = none → ∀ err, ¬ FailsWith cg last err) := by
  rcases downloaded : backend.io.download trace meta.ulid with _ | cause
  · rcases gathered : backend.io.gatherIndexHealthStats (trace ++ [.download meta.ulid none])
      meta.ulid meta.minTime meta.maxTime with cause | stats
    · refine ⟨[.download meta.ulid none], .gatherIndexHealthStats meta.ulid (.error cause),
        by simp [verifyBlock, downloaded, gathered], by simp [FailsWith],
        by simp [verifyBlock, downloaded, gathered, FailsWith], by simp [verifyBlock, downloaded, gathered]⟩
    · refine ⟨[.download meta.ulid none], .gatherIndexHealthStats meta.ulid (.ok stats),
        by simp [verifyBlock, downloaded, gathered], by simp [FailsWith], ?_, ?_⟩ <;>
        simp only [verifyBlock, downloaded, gathered, FailsWith]
      · exact fun err checked => ⟨meta, rfl, checked⟩
      · rintro healthy err ⟨other, -, checked⟩
        rw [(checkIndexHealth_eq_none_iff cg other stats).mpr
          ((checkIndexHealth_eq_none_iff cg meta stats).mp healthy)] at checked
        cases checked
  · exact ⟨[], .download meta.ulid (some cause), by simp [verifyBlock, downloaded], by simp,
      by simp [verifyBlock, downloaded, FailsWith],
      by simp [verifyBlock, downloaded]⟩

/-- `g.Wait()` returns the error of the first goroutine that fails: when the
call `ev` fails and no call before it in the fan-out failed, the fan-out
returns the error of `ev`. -/
theorem verifyBlocks_first_failure {trace before after : Trace} {order : List Meta} {ev : Event}
    {err : Error} (ran : (verifyBlocks backend cg trace order).1 = trace ++ before ++ ev :: after)
    (clean : ∀ ev' ∈ before, ∀ err', ¬ FailsWith cg ev' err') (failing : FailsWith cg ev err) :
    ∃ err', (verifyBlocks backend cg trace order).2 = some err' ∧ FailsWith cg ev err' := by
  induction order generalizing trace before with
  | nil => simp [verifyBlocks] at ran
  | cons meta rest ih =>
    obtain ⟨calls, last, verified, quiet, fails, passes⟩ := verifyBlock_spec backend cg trace meta
    obtain ⟨later, extends_, -⟩ := verifyBlocks_adds backend cg (verifyBlock backend cg trace meta).1 rest
    simp only [verifyBlocks] at ran ⊢
    rw [extends_, verified, List.append_assoc, List.append_assoc, List.append_assoc,
      List.append_cancel_left_eq, ← List.append_assoc] at ran
    rcases append_eq_append_cons ran with ⟨rest', front, -⟩ | ⟨between, rfl, tail⟩
    · rcases append_eq_append_cons front with ⟨_, rfl, -⟩ | ⟨between, rfl, single⟩
      · exact (quiet ev (by simp) err failing).elim
      · cases between with
        | nil =>
          obtain ⟨rfl, -⟩ := List.cons.inj single
          rcases result : (verifyBlock backend cg trace meta).2 with _ | err'
          · exact (passes result err failing).elim
          · exact ⟨err', by simp [result], fails err' result⟩
        | cons _ _ => simp at single
    · have healthy : (verifyBlock backend cg trace meta).2 = none := by
        rcases result : (verifyBlock backend cg trace meta).2 with _ | err'
        · rfl
        · exact (clean last (by simp) err' (fails err' result)).elim
      rw [healthy, Option.none_or]
      exact @ih (verifyBlock backend cg trace meta).1 between (by rw [extends_, tail, List.append_assoc])
        fun ev' mem => clean ev' (by simp [mem])

/-- A run from a plan stopped at the callback, or ran the whole fan-out: it
then ended with the fan-out's error, or the merge came next. -/
theorem PlanRun.fanOut {toCompact : List Meta} {trace : Trace}
    {run : Trace × Except Error (Bool × List Ulid)} (ran : PlanRun backend cg toCompact trace run) :
    (∃ err, run.1 = trace ++ [.preCompactionCallback toCompact (some err)]) ∨
    ∃ fetches result, verifyBlocks backend cg (trace ++ [.preCompactionCallback toCompact none])
        (backend.schedule.order (trace ++ [.preCompactionCallback toCompact none]) toCompact) =
          (trace ++ .preCompactionCallback toCompact none :: fetches, result) ∧
      ((∃ err, result = some err ∧
          run = (trace ++ .preCompactionCallback toCompact none :: fetches, .error err)) ∨
        result = none ∧ ∃ populated rest, run.1 =
          trace ++ .preCompactionCallback toCompact none :: fetches ++ .getBlockPopulator populated :: rest) := by
  have merged : ∀ {verified merged final : Trace} {result : Except Error (List Ulid)}
      {outcome : Except Error (Bool × List Ulid)},
      verifyBlocks backend cg (trace ++ [.preCompactionCallback toCompact none])
        (backend.schedule.order (trace ++ [.preCompactionCallback toCompact none]) toCompact) =
          (verified, none) →
      mergeBlocks backend cg verified (toCompact.map (·.ulid)) = (merged, result) →
      Adds (fun _ => True) merged final → ∃ fetches result, verifyBlocks backend cg
        (trace ++ [.preCompactionCallback toCompact none])
        (backend.schedule.order (trace ++ [.preCompactionCallback toCompact none]) toCompact) =
          (trace ++ .preCompactionCallback toCompact none :: fetches, result) ∧
      ((∃ err, result = some err ∧
          (final, outcome) = (trace ++ .preCompactionCallback toCompact none :: fetches, .error err)) ∨
        result = none ∧ ∃ populated rest, final =
          trace ++ .preCompactionCallback toCompact none :: fetches ++ .getBlockPopulator populated :: rest) := by
    rintro verified merged final result outcome fetched compacted ⟨tail, extends_, -⟩
    obtain ⟨fetches, rfl, -⟩ := fetched_segments backend cg fetched
    refine ⟨fetches, none, fetched, .inr ⟨rfl, ?_⟩⟩
    rcases mergeBlocks_cases backend cg _ (toCompact.map (·.ulid)) with
      ⟨_, once⟩ | ⟨_, once⟩ | ⟨_, once⟩ <;> rw [compacted, Prod.mk.injEq] at once <;>
      rw [extends_, once.1] <;>
      exact ⟨_, _, by simp only [List.append_assoc, List.cons_append, List.singleton_append, List.nil_append]; rfl⟩
  have output : ∀ {merged uploaded : Trace} {compIDs : List Ulid} {result : Option Error},
      uploadCompactedBlocks backend cg toCompact merged compIDs = (uploaded, result) →
        Adds (fun _ => True) merged uploaded := fun published =>
    (congrArg Prod.fst published ▸ uploadCompactedBlocks_adds backend cg toCompact _ _).mono
      fun _ _ => trivial
  have deletion : ∀ {uploaded marked : Trace} {result : Option Error},
      markSourcesForDeletion backend cg uploaded toCompact = (marked, result) →
        Adds (fun _ => True) uploaded marked := fun deleted =>
    (congrArg Prod.fst deleted ▸ markSourcesForDeletion_adds backend cg _ _).mono fun _ _ => trivial
  cases ran with
  | refused => exact .inl ⟨_, rfl⟩
  | unverified _ fetched =>
    obtain ⟨fetches, rfl, -⟩ := fetched_segments backend cg fetched
    exact .inr ⟨fetches, _, fetched, .inl ⟨_, rfl, rfl⟩⟩
  | unmerged _ fetched compacted => exact .inr (merged fetched compacted .refl)
  | empty _ fetched compacted =>
    exact .inr (merged fetched compacted
      ((deleteEmptySources_adds backend cg _ _).mono fun _ _ => trivial))
  | unuploaded _ fetched compacted _ published =>
    exact .inr (merged fetched compacted (output published))
  | unmarked _ fetched compacted _ published deleted =>
    exact .inr (merged fetched compacted ((output published).trans (deletion deleted)))
  | succeeded _ fetched compacted _ published deleted =>
    exact .inr (merged fetched compacted ((output published).trans (deletion deleted)))

/-- `Group.compact` only appends to the trace. -/
theorem compact_extends (trace : Trace) :
    ∃ added, (Group.compact backend cg trace).1 = trace ++ added := by
  have run := compact_run backend cg trace
  generalize Group.compact backend cg trace = outcome at run ⊢
  rcases run with _ | _ | _ | ⟨_, _, _, planRun⟩
  · exact ⟨[], by simp⟩
  · exact ⟨_, rfl⟩
  · exact ⟨_, rfl⟩
  · obtain ⟨added, extends_, -⟩ := PlanRun.adds backend cg planRun
    exact ⟨_, by rw [extends_, List.append_assoc]⟩

/-- A failed planner call ends `Group.compact` with its error, wrapped once. -/
theorem compact_of_failed_plan {trace added : Trace} {metas : List Meta} {err : Error}
    (ran : (Group.compact backend cg trace).1 = trace ++ added)
    (failed : .plan metas (.error err) ∈ added) :
    (Group.compact backend cg trace).2 = .error (.wrap "plan compaction" err) := by
  have run := compact_run backend cg trace
  generalize Group.compact backend cg trace = outcome at run ran ⊢
  rcases run with _ | _ | _ | ⟨_, _, _, planRun⟩
  · simp only [List.self_eq_append_right] at ran
    simp [ran] at failed
  · simp only [List.append_cancel_left_eq] at ran
    simp only [← ran, List.mem_singleton, Event.plan.injEq, Except.error.injEq] at failed
    rw [failed.2]
  · simp only [List.append_cancel_left_eq] at ran
    simp [← ran] at failed
  · obtain ⟨planned, extends_, kinds⟩ := PlanRun.adds backend cg planRun
    rw [extends_, List.append_assoc, List.append_cancel_left_eq] at ran
    simp only [← ran, List.singleton_append, List.mem_cons, Event.plan.injEq, reduceCtorEq,
      and_false, false_or] at failed
    exact (PlanCall.not_plan (kinds _ failed)).elim

/-- The first goroutine of the fan-out to fail decides how `Group.compact`
fails: when the call `ev` fails, before the merge started and with no
failing call before it, the run returns the error of `ev`, and only calls of
the fan-out come after it. -/
theorem compact_of_first_failure {trace before after : Trace} {ev : Event} {err : Error}
    (ran : (Group.compact backend cg trace).1 = trace ++ before ++ ev :: after)
    (clean : ∀ ev' ∈ before, ∀ err', ¬ FailsWith cg ev' err')
    (unmerged : ∀ populated, .getBlockPopulator populated ∉ before) (failing : FailsWith cg ev err) :
    (∃ err', (Group.compact backend cg trace).2 = .error err' ∧ FailsWith cg ev err') ∧
      ∀ ev' ∈ after, VerificationCall ev' := by
  have run := compact_run backend cg trace
  generalize Group.compact backend cg trace = outcome at run ran ⊢
  have outside : ∀ {front : Trace}, (∀ ev' ∈ front, ∀ err', ¬ FailsWith cg ev' err') →
      ¬ ∃ rest, front = before ++ ev :: rest :=
    fun quiet ⟨_, split⟩ => quiet ev (by simp [split]) err failing
  rcases run with _ | _ | _ | @⟨toCompact, _, _, _, _, planRun⟩
  · simp at ran
  · simp only [List.append_assoc, List.append_cancel_left_eq] at ran
    exact (outside (by simp [FailsWith]) ⟨after, ran⟩).elim
  · simp only [List.append_assoc, List.append_cancel_left_eq] at ran
    exact (outside (by simp [FailsWith]) ⟨after, ran⟩).elim
  rcases PlanRun.fanOut backend cg planRun with ⟨_, stopped⟩ | ⟨fetches, result, fetched, branch⟩
  · rw [stopped] at ran
    simp only [List.append_assoc, List.singleton_append, List.append_cancel_left_eq] at ran
    exact (outside (by simp [FailsWith]) ⟨after, ran⟩).elim
  have quiet : ∀ ev' ∈ fetches, VerificationCall ev' := by
    obtain ⟨_, same, kinds⟩ := fetched_segments backend cg fetched
    simp only [List.append_cancel_left_eq, List.cons.injEq, true_and] at same
    rwa [same]
  -- Where `ev` lies: among the fan-out's calls, or after them.
  have locate : ∀ {tail : Trace}, outcome.1 = trace ++ [.plan cg.metasByMinTime (.ok toCompact)] ++
      .preCompactionCallback toCompact none :: fetches ++ tail →
      ((∃ err', result = some err' ∧ FailsWith cg ev err') ∧
        ∃ rest, after = rest ++ tail ∧ ∀ ev' ∈ rest, VerificationCall ev') ∨
        ∃ between, before = .plan cg.metasByMinTime (.ok toCompact) ::
          .preCompactionCallback toCompact none :: fetches ++ between ∧ tail = between ++ ev :: after := by
    intro tail shape
    rw [shape] at ran
    simp only [List.append_assoc, List.cons_append, List.singleton_append,
      List.append_cancel_left_eq] at ran
    rcases append_eq_append_cons (show [_, _] ++ (fetches ++ tail) = _ from ran) with
      ⟨_, front, -⟩ | ⟨between, rfl, back⟩
    · exact (outside (by simp [FailsWith]) ⟨_, front⟩).elim
    rcases append_eq_append_cons back with ⟨rest, rfl, later⟩ | ⟨between', rfl, rfl⟩
    · obtain ⟨err', failed, fails⟩ := @verifyBlocks_first_failure backend cg _ between rest _ _ _
        (by rw [fetched]; simp) (fun ev' mem => clean ev' (by simp [mem])) failing
      rw [fetched] at failed
      exact .inl ⟨⟨err', failed, fails⟩, rest, later, fun ev' mem => quiet ev' (by simp [mem])⟩
    · exact .inr ⟨between', by simp, rfl⟩
  rcases branch with ⟨err', rfl, rfl⟩ | ⟨rfl, populated, rest, shape⟩
  · rcases locate (List.append_nil _).symm with ⟨⟨_, failed, fails⟩, rest, later, kinds⟩ | ⟨_, -, absurd⟩
    · exact ⟨⟨_, by rw [Option.some.inj failed], fails⟩, by simpa [later] using kinds⟩
    · simp at absurd
  · rcases locate shape with ⟨⟨_, absurd, -⟩, -⟩ | ⟨between, rfl, tail⟩
    · cases absurd
    cases between with
    | nil =>
      obtain ⟨rfl, -⟩ := List.cons.inj tail
      simp [FailsWith] at failing
    | cons _ _ =>
      obtain ⟨rfl, -⟩ := List.cons.inj tail
      exact (unmerged populated (by simp)).elim

/-! ## The calls that end a compaction -/

/-- A failed planner call, upload or post-compaction callback: `Group.compact`
returns right after it. -/
inductive EndsCompaction : Event → Prop
  | plan (metas : List Meta) (err : Error) : EndsCompaction (.plan metas (.error err))
  | upload (id : Ulid) (err : Error) : EndsCompaction (.upload id (some err))
  | postCompactionCallback (id : Ulid) (err : Error) :
      EndsCompaction (.postCompactionCallback id (some err))

theorem VerificationCall.not_endsCompaction {ev : Event} (verification : VerificationCall ev) :
    ¬ EndsCompaction ev := by
  rintro ⟨⟩ <;> exact verification

theorem ValidationCall.not_endsCompaction {compID : Ulid} {ev : Event}
    (validation : ValidationCall compID ev) : ¬ EndsCompaction ev := by
  rintro ⟨⟩ <;> exact validation

theorem DeletionCall.not_endsCompaction {ids : List Ulid} {ev : Event} (deletion : DeletionCall ids ev) :
    ¬ EndsCompaction ev := by
  rintro ⟨⟩ <;> exact deletion

theorem mergeBlocks_quiet (trace : Trace) (dirs : List Ulid) :
    Adds (¬ EndsCompaction ·) trace (mergeBlocks backend cg trace dirs).1 := by
  rcases mergeBlocks_cases backend cg trace dirs with ⟨_, once⟩ | ⟨_, once⟩ | ⟨_, once⟩ <;> rw [once] <;>
    refine ⟨_, rfl, fun ev mem ending => ?_⟩ <;>
    simp only [List.mem_cons, List.mem_singleton, List.not_mem_nil, or_false] at mem <;>
    rcases mem with rfl | rfl <;> cases ending

/-- A loop over the output blocks that succeeded made no call that ends a compaction. -/
theorem uploadCompactedBlocks_quiet {toCompact : List Meta} {trace uploaded : Trace}
    {compIDs : List Ulid} (ran : uploadCompactedBlocks backend cg toCompact trace compIDs = (uploaded, none)) :
    Adds (¬ EndsCompaction ·) trace uploaded := by
  obtain ⟨outputs, extends_, kinds⟩ := uploadCompactedBlocks_adds backend cg toCompact trace compIDs
  refine ⟨outputs, by rw [← extends_, ran], fun ev mem ending => ?_⟩
  cases ending with
  | plan => exact kinds _ mem
  | upload => simpa [ran] using (uploadCompactedBlocks_of_failed_call backend cg extends_).1 mem
  | postCompactionCallback => simpa [ran] using (uploadCompactedBlocks_of_failed_call backend cg extends_).2 mem

/-- The loop over the output blocks stops at a failed upload or post-compaction callback. -/
theorem uploadCompactedBlocks_last_of_ending {toCompact : List Meta} {trace before rest : Trace}
    {compIDs : List Ulid} {ev : Event}
    (ran : (uploadCompactedBlocks backend cg toCompact trace compIDs).1 = trace ++ before ++ ev :: rest)
    (ending : EndsCompaction ev) : rest = [] := by
  induction compIDs generalizing trace before with
  | nil => simp [uploadCompactedBlocks] at ran
  | cons compID others ih =>
    obtain ⟨_, ⟨checks, rfl, checked⟩, ⟨_, once⟩ | ⟨_, once⟩ | ⟨_ | failure, once⟩⟩ :=
      uploadCompactedBlock_cases backend cg toCompact trace compID <;>
      simp only [uploadCompactedBlocks, once, Option.map_none', Option.map_some', List.append_assoc,
        List.append_cancel_left_eq] at ran
    all_goals have absent : ev ∉ checks := fun mem => ValidationCall.not_endsCompaction (checked ev mem) ending
    · exact (absent (by simp [ran])).elim
    · exact (append_singleton_eq_append_cons ran absent).2.2
    · obtain ⟨later, extends_, -⟩ := uploadCompactedBlocks_adds backend cg toCompact
        (trace ++ (checks ++ [.upload compID none, .postCompactionCallback compID none])) others
      rw [extends_, List.append_assoc, List.append_cancel_left_eq] at ran
      rcases append_eq_append_cons ran with ⟨_, front, -⟩ | ⟨between, rfl, back⟩
      · have mem : ev ∈ checks ++ [.upload compID none, .postCompactionCallback compID none] := by
          simp [front]
        simp only [List.mem_append, List.mem_cons, List.not_mem_nil, or_false] at mem
        rcases mem with mem | rfl | rfl
        · exact (absent mem).elim
        all_goals cases ending
      · exact @ih (trace ++ (checks ++ [.upload compID none, .postCompactionCallback compID none]))
          between (by rw [extends_, back]; simp)
    · rw [show checks ++ [.upload compID none, .postCompactionCallback compID (some failure)] =
          (checks ++ [.upload compID none]) ++ [.postCompactionCallback compID (some failure)] by simp] at ran
      refine (append_singleton_eq_append_cons ran ?_).2.2
      simp only [List.mem_append, List.mem_singleton, not_or]
      exact ⟨absent, by rintro rfl; nomatch ending⟩

/-- A run from a plan returns right after a call that ends a compaction. -/
theorem PlanRun.last_of_ending {toCompact : List Meta} {trace : Trace}
    {run : Trace × Except Error (Bool × List Ulid)} (ran : PlanRun backend cg toCompact trace run)
    {before rest : Trace} {ev : Event} (split : run.1 = trace ++ before ++ ev :: rest)
    (ending : EndsCompaction ev) : rest = [] := by
  have quiet : Adds (¬ EndsCompaction ·) trace run.1 → rest = [] := fun adds => by
    obtain ⟨added, shape, kinds⟩ := adds
    rw [shape, List.append_assoc, List.append_cancel_left_eq] at split
    exact (kinds ev (by simp [split]) ending).elim
  have verify : ∀ {verified : Trace} {result : Option Error},
      verifyBlocks backend cg (trace ++ [.preCompactionCallback toCompact none])
        (backend.schedule.order (trace ++ [.preCompactionCallback toCompact none]) toCompact) =
          (verified, result) → Adds (¬ EndsCompaction ·) trace verified := fun fetched =>
    (Adds.single (by rintro ⟨⟩)).trans ((congrArg Prod.fst fetched ▸ verifyBlocks_adds backend cg _ _).mono
      fun _ => VerificationCall.not_endsCompaction)
  have merge : ∀ {verified merged : Trace} {result : Except Error (List Ulid)},
      mergeBlocks backend cg verified (toCompact.map (·.ulid)) = (merged, result) →
        Adds (¬ EndsCompaction ·) verified merged := by
    intro verified merged result compacted
    simpa only [compacted] using mergeBlocks_quiet backend cg verified (toCompact.map (·.ulid))
  have mark : ∀ {uploaded marked : Trace} {result : Option Error},
      markSourcesForDeletion backend cg uploaded toCompact = (marked, result) →
        Adds (¬ EndsCompaction ·) uploaded marked := fun deleted =>
    (congrArg Prod.fst deleted ▸ markSourcesForDeletion_adds backend cg _ _).mono
      fun _ => DeletionCall.not_endsCompaction
  cases ran with
  | refused => exact quiet (.single (by rintro ⟨⟩))
  | unverified _ fetched => exact quiet (verify fetched)
  | unmerged _ fetched compacted => exact quiet ((verify fetched).trans (merge compacted))
  | empty _ fetched compacted =>
    exact quiet ((verify fetched).trans ((merge compacted).trans
      ((deleteEmptySources_adds backend cg _ _).mono fun _ => DeletionCall.not_endsCompaction)))
  | unuploaded _ fetched compacted _ failed =>
    obtain ⟨merged, shape, kinds⟩ := (verify fetched).trans (merge compacted)
    obtain ⟨outputs, extends_, -⟩ := uploadCompactedBlocks_adds backend cg toCompact _ _
    rw [failed] at extends_
    dsimp only at split extends_
    rw [extends_, shape, List.append_assoc, List.append_assoc, List.append_cancel_left_eq] at split
    rcases append_eq_append_cons split with ⟨_, front, -⟩ | ⟨between, rfl, back⟩
    · exact (kinds ev (by simp [front]) ending).elim
    · exact uploadCompactedBlocks_last_of_ending backend cg
        (by rw [failed]; dsimp only; rw [extends_, back, List.append_assoc]) ending
  | unmarked _ fetched compacted _ published deleted | succeeded _ fetched compacted _ published deleted =>
    exact quiet ((verify fetched).trans ((merge compacted).trans
      ((uploadCompactedBlocks_quiet backend cg published).trans (mark deleted))))

/-- `Group.compact` returns right after a call that ends a compaction. -/
theorem compact_last_of_ending {trace before rest : Trace} {ev : Event}
    (ran : (Group.compact backend cg trace).1 = trace ++ before ++ ev :: rest)
    (ending : EndsCompaction ev) : rest = [] := by
  have run := compact_run backend cg trace
  generalize Group.compact backend cg trace = outcome at run ran
  rcases run with _ | _ | _ | @⟨toCompact, _, _, _, _, planRun⟩
  · simp at ran
  all_goals simp only [List.append_assoc, List.append_cancel_left_eq] at ran
  · exact (@append_singleton_eq_append_cons _ [] _ _ _ ran (List.not_mem_nil _)).2.2
  · exact (@append_singleton_eq_append_cons _ [] _ _ _ ran (List.not_mem_nil _)).2.2
  obtain ⟨added, extends_, -⟩ := PlanRun.adds backend cg planRun
  rw [extends_, List.append_assoc, List.append_cancel_left_eq, List.singleton_append] at ran
  cases before with
  | nil =>
    obtain ⟨rfl, -⟩ := List.cons.inj ran
    nomatch ending
  | cons _ inner =>
    obtain ⟨rfl, split⟩ := List.cons.inj ran
    exact @PlanRun.last_of_ending backend cg _ _ _ planRun inner rest ev (by simp [extends_, split]) ending

theorem VerificationCall.not_recoverable {ev : Event} (verification : VerificationCall ev) :
    recoverable ev = false := by
  cases ev <;> first | rfl | exact verification.elim

/-! ## The group's work directory -/

/-- The first call that panics, if any, among calls that `firstPanic` scans. -/
theorem firstPanic_cases (panics : Trace → Event → Option String) (trace calls : Trace) :
    firstPanic panics trace calls = none ∨
      ∃ before ev rest p, calls = before ++ ev :: rest ∧ recoverable ev = true ∧
        panics (trace ++ before) ev = some p ∧ firstPanic panics trace calls = some (before, p) := by
  induction calls generalizing trace with
  | nil => exact .inl rfl
  | cons ev rest ih =>
    simp only [firstPanic]
    split
    · rename_i p found
      split_ifs at found with recovered
      exact .inr ⟨[], ev, rest, p, rfl, recovered, by simpa using found, rfl⟩
    · rcases ih (trace ++ [ev]) with none | ⟨before, ev', rest', p, rfl, recovered, panicked, found⟩
      · exact .inl (by rw [none]; rfl)
      · exact .inr ⟨ev :: before, ev', rest', p, rfl, recovered, by simpa using panicked,
          by rw [found]; rfl⟩

/-- The exits of `Group.Compact`: the directory could not be made; or a call
of the `Group.compact` run inside it panicked, and the run stops before that
call with the recovered error; or that run decided the result, and a success
then removed the directory. -/
theorem Compact_cases (trace : Trace) :
    (∃ err, Group.Compact backend cg trace =
      (trace ++ [.mkdirAll (some err)], .error (.wrap "create compaction group dir" err))) ∨
    (∃ before ev rest p, (Group.compact backend cg (trace ++ [.mkdirAll none])).1 =
        trace ++ [.mkdirAll none] ++ before ++ ev :: rest ∧ recoverable ev = true ∧
      backend.panics (trace ++ [.mkdirAll none] ++ before) ev = some p ∧
      Group.Compact backend cg trace = (trace ++ [.mkdirAll none] ++ before,
        .error (panickedWhileCompacting (cg.ids backend.sortSlice) p))) ∨
    ∃ tail, Group.Compact backend cg trace =
        ((Group.compact backend cg (trace ++ [.mkdirAll none])).1 ++ tail,
          (Group.compact backend cg (trace ++ [.mkdirAll none])).2) ∧
      ∀ ev ∈ tail, ∃ removed, ev = .removeGroupDir removed := by
  rcases made : backend.io.mkdirAll trace with _ | err
  · obtain ⟨added, extends_⟩ := compact_extends backend cg (trace ++ [.mkdirAll none])
    have calls : (Group.compact backend cg (trace ++ [.mkdirAll none])).1.drop
        (trace ++ [Event.mkdirAll none]).length = added := by rw [extends_, List.drop_left]
    rcases firstPanic_cases backend.panics (trace ++ [.mkdirAll none]) added with
      quiet | ⟨before, ev, rest, p, rfl, recovered, panicked, found⟩
    · right; right
      rcases compacted : Group.compact backend cg (trace ++ [.mkdirAll none]) with ⟨events, _ | result⟩
      · refine ⟨[], ?_, by simp⟩
        simp only [Group.Compact, made]
        rw [calls, quiet, compacted, List.append_nil]
      · refine ⟨[.removeGroupDir (backend.io.removeGroupDir events)], ?_, by simp⟩
        simp only [Group.Compact, made]
        rw [calls, quiet, compacted]
    · refine .inr (.inl ⟨before, ev, rest, p, by rw [extends_]; simp, recovered,
        panicked, ?_⟩)
      simp only [Group.Compact, made]
      rw [calls, found]
  · exact .inl ⟨err, by simp [Group.Compact, made]⟩

/-- `Group.Compact` only appends to the trace. -/
theorem Compact_extends (trace : Trace) : ∃ calls, (Group.Compact backend cg trace).1 = trace ++ calls := by
  rcases Compact_cases backend cg trace with ⟨_, ran⟩ | ⟨_, _, _, _, _, _, _, ran⟩ | ⟨tail, ran, -⟩ <;> rw [ran]
  · exact ⟨_, rfl⟩
  · exact ⟨_, List.append_assoc _ _ _⟩
  · obtain ⟨added, extends_⟩ := compact_extends backend cg (trace ++ [.mkdirAll none])
    exact ⟨.mkdirAll none :: added ++ tail, by rw [extends_]; simp⟩

/-- A call of `Group.Compact` other than making and removing its directory is a
call of the `Group.compact` run inside it, which decides the result, unless a
call after it panicked. -/
theorem Compact_inner_at {trace before after : Trace} {ev : Event}
    (ran : (Group.Compact backend cg trace).1 = trace ++ before ++ ev :: after)
    (made : ∀ result, ev ≠ .mkdirAll result) (removed : ∀ result, ev ≠ .removeGroupDir result) :
    ∃ inner rest, before = .mkdirAll none :: inner ∧
      (Group.compact backend cg (trace ++ [.mkdirAll none])).1 =
        trace ++ [.mkdirAll none] ++ inner ++ ev :: rest ∧
      ((Group.Compact backend cg trace).2 = (Group.compact backend cg (trace ++ [.mkdirAll none])).2 ∨
        (∃ later ∈ rest, recoverable later = true) ∧ ∃ p,
          (Group.Compact backend cg trace).2 = .error (panickedWhileCompacting (cg.ids backend.sortSlice) p)) := by
  rcases Compact_cases backend cg trace with
    ⟨err, once⟩ | ⟨stopped, c, tail, p, compacted, recovered, -, once⟩ | ⟨tail, once, removal⟩ <;>
    rw [once] at ran ⊢
  · simp only [List.append_assoc, List.append_cancel_left_eq] at ran
    cases before with
    | nil => exact (made _ (List.cons.inj ran).1.symm).elim
    | cons _ _ => simp at ran
  · simp only [List.append_assoc, List.append_cancel_left_eq, List.singleton_append] at ran
    cases before with
    | nil => exact (made _ (List.cons.inj ran).1.symm).elim
    | cons first inner =>
      obtain ⟨rfl, rfl⟩ := List.cons.inj ran
      exact ⟨inner, after ++ c :: tail, rfl, by rw [compacted]; simp, .inr ⟨⟨c, by simp, recovered⟩, p, rfl⟩⟩
  · obtain ⟨added, extends_⟩ := compact_extends backend cg (trace ++ [.mkdirAll none])
    rw [extends_, List.append_assoc, List.append_assoc, List.append_assoc,
      List.append_cancel_left_eq, List.singleton_append] at ran
    cases before with
    | nil => exact (made _ (List.cons.inj ran).1.symm).elim
    | cons first inner =>
      obtain ⟨rfl, split⟩ := List.cons.inj ran
      rcases append_eq_append_cons split with ⟨rest, rfl, -⟩ | ⟨_, -, back⟩
      · exact ⟨inner, rest, rfl, by rw [extends_]; simp, .inl rfl⟩
      · obtain ⟨_, same⟩ := removal ev (by simp [back])
        exact (removed _ same).elim

/-- The `∈` form of `Compact_inner_at`. -/
theorem Compact_inner {trace added : Trace} {ev : Event}
    (ran : (Group.Compact backend cg trace).1 = trace ++ added) (mem : ev ∈ added)
    (made : ∀ result, ev ≠ .mkdirAll result) (removed : ∀ result, ev ≠ .removeGroupDir result) :
    ∃ inner rest, (Group.compact backend cg (trace ++ [.mkdirAll none])).1 =
        trace ++ [.mkdirAll none] ++ inner ++ ev :: rest ∧
      ((Group.Compact backend cg trace).2 = (Group.compact backend cg (trace ++ [.mkdirAll none])).2 ∨
        (∃ later ∈ rest, recoverable later = true) ∧ ∃ p,
          (Group.Compact backend cg trace).2 = .error (panickedWhileCompacting (cg.ids backend.sortSlice) p)) := by
  obtain ⟨before, after, rfl⟩ := List.append_of_mem mem
  obtain ⟨inner, rest, -, eq, result⟩ :=
    Compact_inner_at backend cg (by rw [ran, List.append_assoc]) made removed
  exact ⟨inner, rest, eq, result⟩

/-- A call that ends a compaction and stands among the calls of `Group.Compact`
is a call of the `Group.compact` run inside it, which decides the result: no
call after it can panic. -/
theorem Compact_inner_of_ending {trace added : Trace} {ev : Event}
    (ran : (Group.Compact backend cg trace).1 = trace ++ added) (mem : ev ∈ added)
    (ending : EndsCompaction ev) :
    ∃ inner, (Group.compact backend cg (trace ++ [.mkdirAll none])).1 =
        trace ++ [.mkdirAll none] ++ inner ∧ ev ∈ inner ∧
      (Group.Compact backend cg trace).2 = (Group.compact backend cg (trace ++ [.mkdirAll none])).2 := by
  obtain ⟨inner, rest, eq, result⟩ :=
    Compact_inner backend cg ran mem (by rintro _ rfl; nomatch ending) (by rintro _ rfl; nomatch ending)
  obtain rfl := compact_last_of_ending backend cg (by rw [eq, List.append_assoc]) ending
  exact ⟨inner ++ [ev], by rw [eq, List.append_assoc], by simp,
    result.resolve_right fun ⟨⟨_, absurd, _⟩, _⟩ => nomatch absurd⟩

/-- The first goroutine of the fan-out to fail decides the result of
`Group.Compact` as well: only calls of the fan-out, which cannot panic where
it is recovered, come after it. -/
theorem Compact_of_first_failure {trace before after : Trace} {ev : Event} {err : Error}
    (ran : (Group.Compact backend cg trace).1 = trace ++ before ++ ev :: after)
    (clean : ∀ ev' ∈ before, ∀ err', ¬ FailsWith cg ev' err')
    (unmerged : ∀ populated, .getBlockPopulator populated ∉ before) (failing : FailsWith cg ev err) :
    ∃ err', (Group.Compact backend cg trace).2 = .error err' ∧ FailsWith cg ev err' := by
  obtain ⟨inner, rest, rfl, ran', result⟩ := Compact_inner_at backend cg ran
    (by rintro _ rfl; exact failing) (by rintro _ rfl; exact failing)
  obtain ⟨failure, fanOut⟩ := compact_of_first_failure backend cg ran'
    (fun ev' mem => clean ev' (.tail _ mem)) (fun populated mem => unmerged populated (.tail _ mem)) failing
  rcases result with same | ⟨⟨later, mem, recovered⟩, -⟩
  · exact same ▸ failure
  · simp [VerificationCall.not_recoverable (fanOut later mem)] at recovered

end FanOut

end Thanos.Compact.CompactionFailures
