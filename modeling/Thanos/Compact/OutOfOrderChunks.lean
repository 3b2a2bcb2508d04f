import Thanos.Compact.CompactionPasses

/-!
# Out-of-order chunks errors reach the worker unwrapped

A worker of `BucketCompactor.Compact` tests the error of `Group.Compact` with
`IsOutOfOrderChunkError`, which looks at the error's cause, and then asserts
`err.(OutOfOrderChunksError)` on the error itself: if the two disagree, the
assertion panics and the panic is not recovered.  They agree when every error
`Group.Compact` returns whose cause is an `OutOfOrderChunksError` is that value
unwrapped.

The only `OutOfOrderChunksError` the package builds is the one of the index
check of a downloaded block, and the fan-out, `Group.compact` and
`Group.Compact` return it as it is.  Every other exit wraps an error with
`errors.Wrap`, which keeps the cause, or makes a `HaltError`, a `RetryError` or
an `Issue347Error`, whose cause is itself.  So an out-of-order chunks error
reaches the worker wrapped only when a collaborator answered with an error
whose cause is one: each phase below is proved free of wrapped ones under
`NoOutOfOrderAnswers`, from the fan-out up to the worker.
-/

namespace Thanos.Compact.OutOfOrderChunks

open Thanos.Compact.Primitives
open Thanos.Compact.Errors
open Thanos.Compact.Metadata
open Thanos.Compact.CompactionGroup
open Thanos.Compact.Collaborators
open Thanos.Compact.GroupCompaction
open Thanos.Compact.CompactionPhases
open Thanos.Compact.CompactionFailures
open Thanos.Compact.CompactionPasses

/-- The errors in the answer of a call, the diagnoses of an index health
check included. -/
def answerErrors : Event → List Error
  | .mkdirAll result | .preCompactionCallback _ result | .download _ result
  | .getBlockPopulator result | .removeTombstones _ result | .upload _ result
  | .postCompactionCallback _ result | .removeAll _ result | .markForDeletion _ _ result
  | .removeGroupDir result | .syncMetas result | .garbageCollect result
  | .repairIssue347 _ result | .markForNoCompact _ result => result.toList
  | .plan _ (.error err) | .gatherIndexHealthStats _ (.error err) | .compact _ (.error err)
  | .readFromDir _ (.error err) | .injectThanos _ (.error err) => [err]
  | .gatherIndexHealthStats _ (.ok stats) =>
    [stats.criticalErr, stats.outOfOrderChunksErr, stats.issue347OutsideChunksErr,
      stats.outOfOrderLabelsErr, stats.anyErr].filterMap id
  | .plan _ (.ok _) | .compact _ (.ok _) | .readFromDir _ (.ok _) | .injectThanos _ (.ok _)
  | .canDelete _ _ => []

/-- No call of the trace answered with an error whose cause is an
`OutOfOrderChunksError`. -/
def NoOutOfOrderAnswers (trace : Trace) : Prop :=
  ∀ ev ∈ trace, ∀ err ∈ answerErrors ev, isOutOfOrderChunkError err = false

instance (trace : Trace) : Decidable (NoOutOfOrderAnswers trace) :=
  inferInstanceAs (Decidable (∀ ev ∈ trace, ∀ err ∈ answerErrors ev, _))

/-- An error whose cause is an `OutOfOrderChunksError` only as that value unwrapped. -/
def Unwrapped (err : Error) : Prop :=
  isOutOfOrderChunkError err = true → ∃ inner id, err = outOfOrderChunkError inner id

@[simp]
theorem noOutOfOrderAnswers_append (front back : Trace) :
    NoOutOfOrderAnswers (front ++ back) ↔ NoOutOfOrderAnswers front ∧ NoOutOfOrderAnswers back := by
  simp only [NoOutOfOrderAnswers, List.mem_append, or_imp, forall_and]

@[simp]
theorem noOutOfOrderAnswers_nil : NoOutOfOrderAnswers [] := by
  simp [NoOutOfOrderAnswers]

@[simp]
theorem noOutOfOrderAnswers_cons (ev : Event) (trace : Trace) :
    NoOutOfOrderAnswers (ev :: trace) ↔
      (∀ err ∈ answerErrors ev, isOutOfOrderChunkError err = false) ∧ NoOutOfOrderAnswers trace := by
  simp [NoOutOfOrderAnswers]

theorem unwrapped_of_not {err : Error} (plain : isOutOfOrderChunkError err = false) : Unwrapped err :=
  fun ooo => absurd (plain.symm.trans ooo) Bool.false_ne_true

/-- A halt error has no out-of-order chunks cause, so `retry` never makes one. -/
theorem isOutOfOrderChunkError_retry (err : Error) : isOutOfOrderChunkError (retry err) = false := by
  unfold retry
  split_ifs with halted
  · unfold isHaltError at halted
    unfold isOutOfOrderChunkError
    generalize err.cause = cause at halted ⊢
    cases cause <;> simp_all [Error.isHaltErrorValue]
  · rfl

section Phases

variable (backend : Backend) (cg : Group)

/-! ## The download fan-out -/

theorem checkIndexHealth_unwrapped {meta : Meta} {stats : HealthStats} {err : Error}
    (checked : checkIndexHealth cg meta stats = some err)
    (clean : ∀ answer ∈ answerErrors (.gatherIndexHealthStats meta.ulid (.ok stats)),
      isOutOfOrderChunkError answer = false) :
    Unwrapped err := by
  unfold checkIndexHealth at checked
  split at checked
  · cases checked
    exact unwrapped_of_not rfl
  · cases checked
    exact fun _ => ⟨_, _, rfl⟩
  · cases checked
    exact unwrapped_of_not rfl
  · rename_i labels _ _ _ outOfOrderLabels
    split_ifs at checked
    cases checked
    exact unwrapped_of_not (clean labels (by simp [answerErrors, outOfOrderLabels]))
  · cases checked

/-- The error of a goroutine of the fan-out is unwrapped when its last call
answered with no out-of-order chunks cause. -/
theorem failsWith_unwrapped {ev : Event} {err : Error} (fails : FailsWith cg ev err)
    (clean : ∀ answer ∈ answerErrors ev, isOutOfOrderChunkError answer = false) :
    Unwrapped err := by
  cases ev with
  | download id result =>
    cases result with
    | none => exact fails.elim
    | some cause =>
      rw [show err = _ from fails]
      exact unwrapped_of_not (isOutOfOrderChunkError_retry _)
  | gatherIndexHealthStats id result =>
    cases result with
    | error cause =>
      rw [show err = _ from fails]
      exact unwrapped_of_not (by simpa [answerErrors] using clean)
    | ok stats =>
      obtain ⟨meta, rfl, checked⟩ := fails
      exact checkIndexHealth_unwrapped cg checked clean
  | _ => exact fails.elim

theorem verifyBlocks_unwrapped {trace : Trace} {order : List Meta} {err : Error}
    (failed : (verifyBlocks backend cg trace order).2 = some err)
    (clean : NoOutOfOrderAnswers (verifyBlocks backend cg trace order).1) :
    Unwrapped err := by
  induction order generalizing trace with
  | nil => cases failed
  | cons meta rest induction =>
    obtain ⟨later, extends_, -⟩ :=
      verifyBlocks_adds backend cg (verifyBlock backend cg trace meta).1 rest
    simp only [verifyBlocks] at failed clean
    rcases verified : (verifyBlock backend cg trace meta).2 with _ | first
    · rw [verified, Option.none_or] at failed
      exact induction failed clean
    · rw [verified, Option.or_some, Option.some.injEq] at failed
      subst failed
      obtain ⟨calls, last, eq, -, fails, -⟩ := verifyBlock_spec backend cg trace meta
      rw [extends_, eq] at clean
      simp only [noOutOfOrderAnswers_append, noOutOfOrderAnswers_cons] at clean
      exact failsWith_unwrapped cg (fails _ verified) clean.1.2.1

/-! ## The merge and the output blocks -/

theorem mergeBlocks_error {trace : Trace} {dirs : List Ulid} {err : Error}
    (failed : (mergeBlocks backend cg trace dirs).2 = .error err) :
    isOutOfOrderChunkError err = false := by
  rcases mergeBlocks_cases backend cg trace dirs with ⟨_, ran⟩ | ⟨_, ran⟩ | ⟨_, ran⟩ <;>
    rw [ran] at failed <;> cases failed <;> rfl

theorem finalizeCompactedBlock_error (toCompact : List Meta) (trace : Trace) (compID : Ulid)
    (newMeta : Meta) (err : Error) :
    (finalizeCompactedBlock backend cg toCompact trace compID newMeta).2 = some err →
      NoOutOfOrderAnswers (finalizeCompactedBlock backend cg toCompact trace compID newMeta).1 →
      isOutOfOrderChunkError err = false := by
  unfold finalizeCompactedBlock
  dsimp only
  split
  · rintro ⟨⟩ -
    rfl
  split
  · rename_i cause injected
    rintro ⟨⟩ clean
    simp_all [answerErrors]
  split
  · rintro ⟨⟩
  · rintro failed -
    dsimp only at failed
    obtain ⟨_, -, rfl⟩ := Option.map_eq_some'.mp failed
    rfl

theorem validateCompactedBlock_error (toCompact : List Meta) (trace : Trace) (compID : Ulid)
    (err : Error) :
    (validateCompactedBlock backend cg toCompact trace compID).2 = some err →
      NoOutOfOrderAnswers (validateCompactedBlock backend cg toCompact trace compID).1 →
      isOutOfOrderChunkError err = false := by
  unfold validateCompactedBlock
  dsimp only
  split
  · rintro ⟨⟩ clean
    simp_all [answerErrors]
  split
  · rintro ⟨⟩ clean
    simp_all [answerErrors]
  · exact finalizeCompactedBlock_error backend cg _ _ _ _ err

theorem uploadCompactedBlock_error (toCompact : List Meta) (trace : Trace) (compID : Ulid)
    (err : Error) :
    (uploadCompactedBlock backend cg toCompact trace compID).2 = some err →
      NoOutOfOrderAnswers (uploadCompactedBlock backend cg toCompact trace compID).1 →
      isOutOfOrderChunkError err = false := by
  unfold uploadCompactedBlock
  dsimp only
  split
  · rename_i validated
    rintro ⟨⟩ clean
    exact validateCompactedBlock_error backend cg toCompact trace compID _ validated clean
  split
  · rintro ⟨⟩ -
    exact isOutOfOrderChunkError_retry _
  · rintro failed -
    obtain ⟨_, -, rfl⟩ := Option.map_eq_some'.mp failed
    exact isOutOfOrderChunkError_retry _

theorem uploadCompactedBlocks_error (toCompact : List Meta) (trace : Trace) (compIDs : List Ulid)
    (err : Error) :
    (uploadCompactedBlocks backend cg toCompact trace compIDs).2 = some err →
      NoOutOfOrderAnswers (uploadCompactedBlocks backend cg toCompact trace compIDs).1 →
      isOutOfOrderChunkError err = false := by
  induction compIDs generalizing trace with
  | nil => rintro ⟨⟩
  | cons compID rest induction =>
    unfold uploadCompactedBlocks
    dsimp only
    split
    · rename_i uploaded
      rintro ⟨⟩ clean
      exact uploadCompactedBlock_error backend cg toCompact trace compID _ uploaded clean
    · exact induction _

/-- Every error of the deletion loop is a `RetryError`. -/
theorem markSourcesForDeletion_error (trace : Trace) (toCompact : List Meta) (err : Error)
    (failed : (markSourcesForDeletion backend cg trace toCompact).2 = some err) :
    isOutOfOrderChunkError err = false := by
  induction toCompact generalizing trace with
  | nil => cases failed
  | cons meta rest induction =>
    unfold markSourcesForDeletion at failed
    dsimp only at failed
    split at failed
    · cases failed
      exact isOutOfOrderChunkError_retry _
    · exact induction _ failed

/-! ## The compaction of a group -/

theorem planRun_unwrapped {toCompact : List Meta} {trace : Trace}
    {run : Trace × Except Error (Bool × List Ulid)} (ran : PlanRun backend cg toCompact trace run)
    {err : Error} (failed : run.2 = .error err) (clean : NoOutOfOrderAnswers run.1) :
    Unwrapped err := by
  cases ran with
  | refused =>
    cases failed
    exact unwrapped_of_not (by simp_all [answerErrors])
  | unverified _ fetched =>
    cases failed
    exact verifyBlocks_unwrapped backend cg (by rw [fetched]) (by rw [fetched]; exact clean)
  | unmerged _ _ merged =>
    cases failed
    exact unwrapped_of_not (mergeBlocks_error backend cg (by rw [merged]))
  | unuploaded _ _ _ _ uploaded =>
    cases failed
    exact unwrapped_of_not
      (uploadCompactedBlocks_error backend cg _ _ _ _ (by rw [uploaded]) (by rw [uploaded]; exact clean))
  | unmarked _ _ _ _ _ marked =>
    cases failed
    exact unwrapped_of_not (markSourcesForDeletion_error backend cg _ _ _ (by rw [marked]))
  | empty | succeeded => cases failed

theorem compactRun_unwrapped {trace : Trace} {run : Trace × Except Error (Bool × List Ulid)}
    (ran : CompactRun backend cg trace run) {err : Error} (failed : run.2 = .error err)
    (clean : NoOutOfOrderAnswers run.1) :
    Unwrapped err := by
  cases ran with
  | overlapping =>
    cases failed
    exact unwrapped_of_not rfl
  | unplanned =>
    cases failed
    exact unwrapped_of_not (by simp_all [answerErrors])
  | idle => cases failed
  | planned _ _ _ ran => exact planRun_unwrapped backend cg ran failed clean

theorem Compact_unwrapped {trace : Trace} {err : Error}
    (failed : (Group.Compact backend cg trace).2 = .error err)
    (clean : NoOutOfOrderAnswers (Group.Compact backend cg trace).1) :
    Unwrapped err := by
  rcases Compact_cases backend cg trace with ⟨cause, ran⟩ | ⟨_, _, _, _, _, _, _, ran⟩ | ⟨tail, ran, -⟩ <;>
    rw [ran] at failed clean
  · cases failed
    exact unwrapped_of_not (by simp_all [answerErrors])
  · cases failed
    exact unwrapped_of_not rfl
  · rw [noOutOfOrderAnswers_append] at clean
    exact compactRun_unwrapped backend cg (compact_run backend cg _) failed clean.1

end Phases

/-! ## The worker -/

section Worker

variable (pb : PassBackend) (c : BucketCompactor)

theorem skipOutOfOrderChunks_ne_panicked (g : Group) (trace : Trace) {err : Error}
    (unwrapped : Unwrapped err) :
    (skipOutOfOrderChunks pb c g trace err).2 ≠ .panicked := by
  unfold skipOutOfOrderChunks
  split_ifs with skipping
  · obtain ⟨inner, id, rfl⟩ := unwrapped (Bool.and_eq_true _ _ ▸ skipping).1
    dsimp only [outOfOrderChunkError, outOfOrderChunksId]
    split <;> nofun
  · nofun

theorem compactGroup_ne_panicked (g : Group) (trace : Trace)
    (unwrapped : ∀ err, (Group.Compact pb.backend g trace).2 = .error err → Unwrapped err) :
    (compactGroup pb c g trace).2 ≠ .panicked := by
  unfold compactGroup
  dsimp only
  split
  · nofun
  rename_i err failed
  unfold handleGroupError
  split_ifs
  · dsimp only
    split
    · nofun
    · exact skipOutOfOrderChunks_ne_panicked pb c g _ (unwrapped err failed)
  · exact skipOutOfOrderChunks_ne_panicked pb c g _ (unwrapped err failed)

end Worker

/-- For every run of `Group.Compact` in which no collaborator answered with an
error whose cause is an `OutOfOrderChunksError`, every error it returns whose
cause is one is that `OutOfOrderChunksError` unwrapped, and the worker's type
assertion `err.(OutOfOrderChunksError)` does not panic. -/
theorem compact_out_of_order_errors_unwrapped (pb : PassBackend) (c : BucketCompactor) (g : Group)
    (trace : Trace) (clean : NoOutOfOrderAnswers (Group.Compact pb.backend g trace).1) :
    (∀ err, (Group.Compact pb.backend g trace).2 = .error err → isOutOfOrderChunkError err = true →
      ∃ inner id, err = outOfOrderChunkError inner id) ∧
    (compactGroup pb c g trace).2 ≠ .panicked :=
  have unwrapped := fun _ failed => Compact_unwrapped pb.backend g failed clean
  ⟨unwrapped, compactGroup_ne_panicked pb c g trace unwrapped⟩

/-- `samplePassBackend none` with an index check that reports out-of-order
chunks in every block. -/
def unorderedChunksBackend : PassBackend :=
  { samplePassBackend none with
    backend := { (samplePassBackend none).backend with
      io := { (samplePassBackend none).backend.io with
        gatherIndexHealthStats := fun _ _ _ _ =>
          .ok ⟨none, some (.new "out-of-order chunks"), none, none, none⟩ } } }

/-- One worker that skips blocks with out-of-order chunks. -/
def skippingWorker : BucketCompactor := ⟨1, true, Nat.one_pos⟩

/-- The out-of-order chunks of block 1 stop the compaction of `passGroup`; the
worker marks the block for no compaction. -/
theorem compact_out_of_order_errors_unwrapped_of_marked :
    NoOutOfOrderAnswers (Group.Compact unorderedChunksBackend.backend passGroup []).1 ∧
      (compactGroup unorderedChunksBackend skippingWorker passGroup []).2 ≠ .panicked ∧
      (compactGroup unorderedChunksBackend skippingWorker passGroup []).2 = .markedNoCompact :=
  have clean : NoOutOfOrderAnswers (Group.Compact unorderedChunksBackend.backend passGroup []).1 := by
    decide
  ⟨clean, (compact_out_of_order_errors_unwrapped unorderedChunksBackend skippingWorker passGroup []
    clean).2, by decide⟩

end Thanos.Compact.OutOfOrderChunks
