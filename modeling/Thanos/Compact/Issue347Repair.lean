import Thanos.Compact.PassSafety

/-!
# The repair of blocks broken by Issue 347

`RepairIssue347` replaces a block whose index has chunks outside the block's
time range: it downloads the block named by the `Issue347Error` it is given
into a temporary directory, reads its meta, lets `block.Repair` write a
repaired copy, checks the copy's index within the broken block's time range,
uploads the copy, and marks the broken block for deletion.  The temporary
directory is removed on the way out, whatever happened (its failure is only
logged).

The bucket and the local disk are oracles of the calls made so far, as
everywhere in this development; the calls are `RepairEvent`s.  The body is
split at its phases, each a named helper that keeps the Go error messages.

The results:

* `repairIssue347_marks_only_replaced_blocks`: the repair marks a block for
  deletion only when it is the block named by the error's cause and only after
  the repaired copy passed the index check and was uploaded; it returns nil
  exactly when that happened and the mark succeeded;
* `pass_repairs_replace_diagnosed_blocks`: in every interleaving of a pass of
  `BucketCompactor.Compact` whose repair is this function, every repair that
  the pass counts as done replaced a block and marked it for deletion, and
  that block is one that the failed compaction right before the repair
  planned, downloaded and found broken by Issue 347, unless a collaborator
  answered that compaction with an `Issue347Error` of its own.
-/

namespace Thanos.Compact.Issue347Repair

open Thanos.Compact.Primitives
open Thanos.Compact.Errors
open Thanos.Compact.Metadata
open Thanos.Compact.Collaborators
open Thanos.Compact.GroupCompaction
open Thanos.Compact.CompactionSafety
open Thanos.Compact.CompactionPasses
open Thanos.Compact.OutOfOrderChunks
open Thanos.Compact.ErrorOrigins
open Thanos.Compact.PassSafety

/-! ## The calls and their oracles -/

/-- A call of `RepairIssue347`, with its answer. -/
inductive RepairEvent where
  /-- `os.MkdirTemp("", pattern)`. -/
  | mkdirTemp (pattern : String) (result : Except Error String)
  /-- `block.Download` of block `id` into `dir`. -/
  | download (id : Ulid) (dir : String) (result : Option Error)
  | readFromDir (dir : String) (result : Except Error Meta)
  /-- `block.Repair` of block `id` in `dir`: the id of the repaired block. -/
  | repair (dir : String) (id : Ulid) (result : Except Error Ulid)
  /-- `block.VerifyIndex` of an index file within a time range. -/
  | verifyIndex (indexFile : String) (minTime maxTime : Int64) (result : Option Error)
  | upload (dir : String) (result : Option Error)
  | markForDeletion (id : Ulid) (details : String) (result : Option Error)
  /-- The deferred `os.RemoveAll(tmpdir)`. -/
  | removeAll (dir : String) (result : Option Error)
deriving DecidableEq

/-- The calls of the repair made so far, oldest first. -/
abbrev RepairTrace := List RepairEvent

/-- The bucket and the local disk, as the repair sees them. -/
structure RepairBackend where
  mkdirTemp : RepairTrace → String → Except Error String
  download : RepairTrace → Ulid → String → Option Error
  readFromDir : RepairTrace → String → Except Error Meta
  repair : RepairTrace → String → Ulid → Except Error Ulid
  verifyIndex : RepairTrace → String → Int64 → Int64 → Option Error
  upload : RepairTrace → String → Option Error
  markForDeletion : RepairTrace → Ulid → String → Option Error
  removeAll : RepairTrace → String → Option Error

/-- `filepath.Join(dir, name)` of a clean directory and a file name. -/
def filepathJoin (dir name : String) : String := dir ++ "/" ++ name

/-- `block.IndexFilename`. -/
def indexFilename : String := "index"

/-- `errors.Cause(err).(Issue347Error)`: the id of the broken block. -/
def issue347Id (err : Error) : Option Ulid :=
  match err.cause with
  | .issue347Error _ id => some id
  | _ => none

/-- The type assertion succeeds exactly when `IsIssue347Error` holds. -/
theorem isIssue347Error_eq_isSome (err : Error) : isIssue347Error err = (issue347Id err).isSome := by
  unfold isIssue347Error issue347Id
  cases err.cause <;> rfl

@[simp]
theorem issue347Id_issue347Error (err : Error) (id : Ulid) : issue347Id (issue347Error err id) = some id :=
  rfl

/-! ## The phases of the repair -/

section Phases

variable (rb : RepairBackend)

/-- `block.Download` of the broken block into `tmpdir/id`, then the meta read from there. -/
def fetchBroken (tmpdir : String) (id : Ulid) (trace : RepairTrace) : RepairTrace × Except Error Meta :=
  let bdir := filepathJoin tmpdir (toString id)
  let downloaded := rb.download trace id bdir
  let trace := trace ++ [.download id bdir downloaded]
  match downloaded with
  | some err => (trace, .error (retry (.wrap s!"download block {id}" err)))
  | none =>
    let read := rb.readFromDir trace bdir
    let trace := trace ++ [.readFromDir bdir read]
    match read with
    | .error err => (trace, .error (.wrap s!"read meta from {bdir}" err))
    | .ok meta => (trace, .ok meta)

/-- `block.Repair` of the broken block, then `block.VerifyIndex` of the repaired
block's index within the broken block's time range. -/
def repairBroken (tmpdir : String) (id : Ulid) (meta : Meta) (trace : RepairTrace) :
    RepairTrace × Except Error Ulid :=
  let repaired := rb.repair trace tmpdir id
  let trace := trace ++ [.repair tmpdir id repaired]
  match repaired with
  | .error err => (trace, .error (.wrap s!"repair failed for block {id}" err))
  | .ok resid =>
    let indexFile := filepathJoin (filepathJoin tmpdir (toString resid)) indexFilename
    let verified := rb.verifyIndex trace indexFile meta.minTime meta.maxTime
    let trace := trace ++ [.verifyIndex indexFile meta.minTime meta.maxTime verified]
    match verified with
    | some err => (trace, .error (.wrap s!"repaired block is invalid {resid}" err))
    | none => (trace, .ok resid)

/-- `block.Upload` of the repaired block, then `block.MarkForDeletion` of the broken one. -/
def replaceBroken (tmpdir : String) (id resid : Ulid) (trace : RepairTrace) : RepairTrace × Option Error :=
  let residDir := filepathJoin tmpdir (toString resid)
  let uploaded := rb.upload trace residDir
  let trace := trace ++ [.upload residDir uploaded]
  match uploaded with
  | some err => (trace, some (retry (.wrap s!"upload of {resid} failed" err)))
  | none =>
    let marked := rb.markForDeletion trace id "source of repaired block"
    (trace ++ [.markForDeletion id "source of repaired block" marked],
      marked.map fun err => .wrap s!"marking old block {id} for deletion has failed" err)

/-- The body of `RepairIssue347` between creating `tmpdir` and removing it. -/
def repairInDir (tmpdir : String) (id : Ulid) (trace : RepairTrace) : RepairTrace × Option Error :=
  let fetched := fetchBroken rb tmpdir id trace
  match fetched.2 with
  | .error err => (fetched.1, some err)
  | .ok meta =>
    let repaired := repairBroken rb tmpdir id meta fetched.1
    match repaired.2 with
    | .error err => (repaired.1, some err)
    | .ok resid => replaceBroken rb tmpdir id resid repaired.1

/-- `RepairIssue347`. -/
def repairIssue347 (trace : RepairTrace) (issue347Err : Error) : RepairTrace × Option Error :=
  match issue347Id issue347Err with
  | none => (trace, some (.new "Given error is not an issue347 error"))
  | some id =>
    let pattern := s!"repair-issue-347-id-{id}-"
    let made := rb.mkdirTemp trace pattern
    let trace := trace ++ [.mkdirTemp pattern made]
    match made with
    | .error err => (trace, some err)
    | .ok tmpdir =>
      let repaired := repairInDir rb tmpdir id trace
      (repaired.1 ++ [.removeAll tmpdir (rb.removeAll repaired.1 tmpdir)], repaired.2)

end Phases

/-! ## What a run of the repair called -/

/-- Calls that mark no block for deletion. -/
def Unmarked (calls : RepairTrace) : Prop :=
  ∀ id details result, RepairEvent.markForDeletion id details result ∉ calls

/-- The calls of a run of the repair that replaced the broken block `id`: the
temporary directory was made, the broken block downloaded and its meta read, a
repaired block `resid` built, its index verified within the broken block's
time range, the repaired block uploaded, the broken block marked for deletion
(with the answer `marked`), and last the temporary directory removed. -/
def Replaced (calls : RepairTrace) (id : Ulid) (marked : Option Error) : Prop :=
  ∃ tmpdir meta resid removed, calls =
    [.mkdirTemp s!"repair-issue-347-id-{id}-" (.ok tmpdir),
      .download id (filepathJoin tmpdir (toString id)) none,
      .readFromDir (filepathJoin tmpdir (toString id)) (.ok meta),
      .repair tmpdir id (.ok resid),
      .verifyIndex (filepathJoin (filepathJoin tmpdir (toString resid)) indexFilename)
        meta.minTime meta.maxTime none,
      .upload (filepathJoin tmpdir (toString resid)) none,
      .markForDeletion id "source of repaired block" marked,
      .removeAll tmpdir removed]

section Exits

variable (rb : RepairBackend)

/-- The exits of the fetch: a failure that marks nothing, or the broken block's meta. -/
theorem fetchBroken_cases (tmpdir : String) (id : Ulid) (trace : RepairTrace) :
    (∃ calls err, fetchBroken rb tmpdir id trace = (trace ++ calls, .error err) ∧ Unmarked calls) ∨
    ∃ meta, fetchBroken rb tmpdir id trace =
      (trace ++ [.download id (filepathJoin tmpdir (toString id)) none,
        .readFromDir (filepathJoin tmpdir (toString id)) (.ok meta)], .ok meta) := by
  rcases downloaded : rb.download trace id (filepathJoin tmpdir (toString id)) with _ | err
  · rcases read : rb.readFromDir (trace ++ [.download id (filepathJoin tmpdir (toString id)) none])
      (filepathJoin tmpdir (toString id)) with err | meta
    · exact .inl ⟨_, _, by simp [fetchBroken, downloaded, read]; exact ⟨rfl, rfl⟩, by simp [Unmarked]⟩
    · exact .inr ⟨meta, by simp [fetchBroken, downloaded, read]⟩
  · exact .inl ⟨_, _, by simp [fetchBroken, downloaded]; exact ⟨rfl, rfl⟩, by simp [Unmarked]⟩

/-- The exits of the repair proper: a failure that marks nothing, or the
repaired block, whose index passed the check. -/
theorem repairBroken_cases (tmpdir : String) (id : Ulid) (meta : Meta) (trace : RepairTrace) :
    (∃ calls err, repairBroken rb tmpdir id meta trace = (trace ++ calls, .error err) ∧ Unmarked calls) ∨
    ∃ resid, repairBroken rb tmpdir id meta trace =
      (trace ++ [.repair tmpdir id (.ok resid),
        .verifyIndex (filepathJoin (filepathJoin tmpdir (toString resid)) indexFilename)
          meta.minTime meta.maxTime none], .ok resid) := by
  rcases repaired : rb.repair trace tmpdir id with err | resid
  · exact .inl ⟨_, _, by simp [repairBroken, repaired]; exact ⟨rfl, rfl⟩, by simp [Unmarked]⟩
  · rcases verified : rb.verifyIndex (trace ++ [.repair tmpdir id (.ok resid)])
      (filepathJoin (filepathJoin tmpdir (toString resid)) indexFilename) meta.minTime meta.maxTime
      with _ | err
    · exact .inr ⟨resid, by simp [repairBroken, repaired, verified]⟩
    · exact .inl ⟨_, _, by simp [repairBroken, repaired, verified]; exact ⟨rfl, rfl⟩, by simp [Unmarked]⟩

/-- The exits of the replacement: a failed upload, which marks nothing, or the
upload and the mark. -/
theorem replaceBroken_cases (tmpdir : String) (id resid : Ulid) (trace : RepairTrace) :
    (∃ calls err, replaceBroken rb tmpdir id resid trace = (trace ++ calls, some err) ∧ Unmarked calls) ∨
    ∃ marked, replaceBroken rb tmpdir id resid trace =
      (trace ++ [.upload (filepathJoin tmpdir (toString resid)) none,
        .markForDeletion id "source of repaired block" marked],
        marked.map fun err => .wrap s!"marking old block {id} for deletion has failed" err) := by
  rcases uploaded : rb.upload trace (filepathJoin tmpdir (toString resid)) with _ | err
  · exact .inr ⟨rb.markForDeletion (trace ++ [.upload (filepathJoin tmpdir (toString resid)) none]) id
      "source of repaired block", by simp [replaceBroken, uploaded]⟩
  · exact .inl ⟨_, _, by simp [replaceBroken, uploaded]; exact ⟨rfl, rfl⟩, by simp [Unmarked]⟩

/-- The exits of the body: a failure that marks nothing, or the whole
replacement, with the answer of the mark. -/
theorem repairInDir_cases (tmpdir : String) (id : Ulid) (trace : RepairTrace) :
    (∃ calls err, repairInDir rb tmpdir id trace = (trace ++ calls, some err) ∧ Unmarked calls) ∨
    ∃ meta resid marked, repairInDir rb tmpdir id trace =
      (trace ++ [.download id (filepathJoin tmpdir (toString id)) none,
        .readFromDir (filepathJoin tmpdir (toString id)) (.ok meta),
        .repair tmpdir id (.ok resid),
        .verifyIndex (filepathJoin (filepathJoin tmpdir (toString resid)) indexFilename)
          meta.minTime meta.maxTime none,
        .upload (filepathJoin tmpdir (toString resid)) none,
        .markForDeletion id "source of repaired block" marked],
        marked.map fun err => .wrap s!"marking old block {id} for deletion has failed" err) := by
  rcases fetchBroken_cases rb tmpdir id trace with ⟨calls, err, fetched, unmarked⟩ | ⟨meta, fetched⟩
  · exact .inl ⟨calls, err, by simp [repairInDir, fetched], unmarked⟩
  rcases repairBroken_cases rb tmpdir id meta (fetchBroken rb tmpdir id trace).1 with
    ⟨calls, err, repaired, unmarked⟩ | ⟨resid, repaired⟩ <;> simp only [fetched] at repaired
  · refine .inl ⟨_, err, by simp [repairInDir, fetched, repaired]; rfl, ?_⟩
    simpa [Unmarked] using unmarked
  rcases replaceBroken_cases rb tmpdir id resid (repairBroken rb tmpdir id meta
      (fetchBroken rb tmpdir id trace).1).1 with ⟨calls, err, replaced, unmarked⟩ | ⟨marked, replaced⟩ <;>
    simp only [fetched, repaired, List.append_assoc, List.cons_append, List.nil_append] at replaced
  · refine .inl ⟨_, err, by simp [repairInDir, fetched, repaired, replaced]; rfl, ?_⟩
    simpa [Unmarked] using unmarked
  · exact .inr ⟨meta, resid, marked, by simp [repairInDir, fetched, repaired, replaced]⟩

/-- The exits of `RepairIssue347`: a failure that marks nothing, or a run that
replaced the block named by the error's cause. -/
theorem repairIssue347_cases (trace : RepairTrace) (err : Error) :
    (∃ calls failure, repairIssue347 rb trace err = (trace ++ calls, some failure) ∧ Unmarked calls) ∨
    ∃ id calls marked, issue347Id err = some id ∧ Replaced calls id marked ∧
      repairIssue347 rb trace err = (trace ++ calls,
        marked.map fun err => .wrap s!"marking old block {id} for deletion has failed" err) := by
  rcases named : issue347Id err with _ | id
  · exact .inl ⟨[], .new "Given error is not an issue347 error", by simp [repairIssue347, named],
      by simp [Unmarked]⟩
  rcases made : rb.mkdirTemp trace s!"repair-issue-347-id-{id}-" with failure | tmpdir
  · exact .inl ⟨_, failure, by simp [repairIssue347, named, made]; rfl, by simp [Unmarked]⟩
  rcases repairInDir_cases rb tmpdir id (trace ++ [.mkdirTemp s!"repair-issue-347-id-{id}-" (.ok tmpdir)])
    with ⟨calls, failure, repaired, unmarked⟩ | ⟨meta, resid, marked, repaired⟩
  · refine .inl ⟨_, failure, by simp [repairIssue347, named, made, repaired]; rfl, ?_⟩
    simpa [Unmarked] using unmarked
  · exact .inr ⟨id, _, marked, rfl, ⟨tmpdir, meta, resid, _, rfl⟩,
      by simp [repairIssue347, named, made, repaired]; rfl⟩

end Exits

/-- `RepairIssue347` marks a block for deletion only when it is the block
named by the `Issue347Error` cause of its argument, and only after it
downloaded that block, read its meta, built a repaired block whose index
passed the check within the broken block's time range, and uploaded it; last
it removes its temporary directory.  It returns nil exactly when it did all of
this and the mark succeeded. -/
theorem repairIssue347_marks_only_replaced_blocks (rb : RepairBackend) (trace : RepairTrace)
    (err : Error) {calls : RepairTrace} (ran : (repairIssue347 rb trace err).1 = trace ++ calls) :
    (∀ id details result, .markForDeletion id details result ∈ calls →
      issue347Id err = some id ∧ Replaced calls id result) ∧
    ((repairIssue347 rb trace err).2 = none ↔ ∃ id, issue347Id err = some id ∧ Replaced calls id none) := by
  rcases repairIssue347_cases rb trace err with
    ⟨calls', failure, repaired, unmarked⟩ | ⟨id, calls', marked, named, replaced, repaired⟩ <;>
    rw [repaired, List.append_cancel_left_eq] at ran <;> subst ran <;> rw [repaired]
  · refine ⟨fun id details result mem => absurd mem (unmarked id details result), ?_⟩
    simp only [reduceCtorEq, false_iff, not_exists, not_and]
    rintro id - ⟨tmpdir, meta, resid, removed, rfl⟩
    exact unmarked id "source of repaired block" none (by simp)
  · obtain ⟨tmpdir, meta, resid, removed, rfl⟩ := replaced
    refine ⟨fun id' details result mem => ?_, ?_⟩
    · simp only [List.mem_cons, reduceCtorEq, RepairEvent.markForDeletion.injEq, List.not_mem_nil,
        false_or, or_false] at mem
      obtain ⟨rfl, rfl, rfl⟩ := mem
      exact ⟨named, _, _, _, _, rfl⟩
    · simp only [Option.map_eq_none', named, Option.some.injEq, exists_eq_left']
      constructor
      · rintro rfl
        exact ⟨_, _, _, _, rfl⟩
      · rintro ⟨_, _, _, _, same⟩
        cases same
        rfl

/-- A repair that returned nil replaced the block named by the error's cause,
and the mark succeeded. -/
theorem repairIssue347_eq_none {rb : RepairBackend} {trace : RepairTrace} {err : Error}
    (repaired : (repairIssue347 rb trace err).2 = none) :
    ∃ id calls, issue347Id err = some id ∧ Replaced calls id none ∧
      (repairIssue347 rb trace err).1 = trace ++ calls := by
  rcases repairIssue347_cases rb trace err with
    ⟨_, _, ran, -⟩ | ⟨id, calls, marked, named, replaced, ran⟩ <;> rw [ran] at repaired ⊢
  · cases repaired
  · obtain rfl : marked = none := Option.map_eq_none'.mp repaired
    exact ⟨id, calls, named, replaced, rfl⟩

/-- Every block a bucket that answers every call replaces: the repaired block
is block 2. -/
def sampleRepairBackend : RepairBackend where
  mkdirTemp _ pattern := .ok ("/tmp/" ++ pattern)
  download _ _ _ := none
  readFromDir _ _ := .ok (sampleMeta 1 0 10)
  repair _ _ _ := .ok 2
  verifyIndex _ _ _ _ := none
  upload _ _ := none
  markForDeletion _ _ _ := none
  removeAll _ _ := none

/-- The error the index check of block 1 gives when its chunks lie outside its range. -/
def brokenBlockError : Error :=
  issue347Error (.wrap "invalid, but reparable block 1" (.new "chunks outside the block range")) 1

theorem repairIssue347_marks_only_replaced_blocks_of_sample :
    (repairIssue347 sampleRepairBackend [] brokenBlockError).1 =
      [] ++ (repairIssue347 sampleRepairBackend [] brokenBlockError).1 ∧
    (∀ id details result, .markForDeletion id details result ∈
        (repairIssue347 sampleRepairBackend [] brokenBlockError).1 →
      issue347Id brokenBlockError = some id ∧
        Replaced (repairIssue347 sampleRepairBackend [] brokenBlockError).1 id result) ∧
    ((repairIssue347 sampleRepairBackend [] brokenBlockError).2 = none ↔ ∃ id,
      issue347Id brokenBlockError = some id ∧
        Replaced (repairIssue347 sampleRepairBackend [] brokenBlockError).1 id none) :=
  ⟨rfl, repairIssue347_marks_only_replaced_blocks sampleRepairBackend [] brokenBlockError rfl⟩

/-! ## The repair in a pass -/

/-- In every interleaving of a pass of `BucketCompactor.Compact` whose repair
is `RepairIssue347` against the bucket's history of repairs, every repair the
pass counts as done follows the failed compaction of a group the pass sent,
made right before it, and replaced a block and marked it for deletion.  When
no collaborator answered that compaction with an error whose cause is an
`Issue347Error`, the compaction planned that block, downloaded it and found it
broken by Issue 347. -/
theorem pass_repairs_replace_diagnosed_blocks {pb : PassBackend} {c : BucketCompactor} {trace : Trace}
    {s : Pass} (rb : RepairBackend) (history : Trace → RepairTrace)
    (answers : ∀ t err, pb.repairIssue347 t err = (repairIssue347 rb (history t) err).2)
    (reach : Reaches pb c trace s) {before after : Trace} {err : Error}
    (split : s.trace = trace ++ before ++ .repairIssue347 err none :: after) :
    ∃ g ∈ s.sent, ∃ earlier calls id repairCalls, before = earlier ++ calls ∧
      Group.Compact pb.backend g (trace ++ earlier) = (trace ++ before, .error err) ∧
      (repairIssue347 rb (history (trace ++ before)) err).1 = history (trace ++ before) ++ repairCalls ∧
      Replaced repairCalls id none ∧
      ((∀ ev ∈ calls, ∀ cause ∈ answerErrors ev, isIssue347Error cause = false) →
        Diagnosed g calls id fun stats => stats.criticalErr = none ∧ stats.outOfOrderChunksErr = none ∧
          stats.issue347OutsideChunksErr ≠ none) := by
  obtain ⟨g, sent, earlier, calls, err', rfl, compacted, ⟨issue347, called⟩ | ⟨_, _, -, -, marked⟩⟩ :=
    repairCall_of_reaches reach split trivial
  · simp only [Event.repairIssue347.injEq] at called
    obtain ⟨rfl, repaired⟩ := called
    obtain ⟨calls', extended, origin⟩ := Compact_origin pb.backend g (trace ++ earlier) (by rw [compacted])
    simp only [compacted, List.append_assoc, List.append_cancel_left_eq] at extended
    subst extended
    rw [answers] at repaired
    obtain ⟨id, repairCalls, named, replaced, ran⟩ := repairIssue347_eq_none repaired.symm
    refine ⟨g, sent, earlier, _, id, repairCalls, rfl, compacted, ran, replaced, fun clean => ?_⟩
    obtain ⟨inner, id', rfl, diagnosed⟩ := origin.issue347 issue347 clean
    exact Option.some.inj named ▸ diagnosed
  · cases marked

/-- `brokenIndexBackend`, whose index check finds block 1 broken by Issue 347,
with `RepairIssue347` on `sampleRepairBackend` as its repair. -/
def repairingPassBackend : PassBackend :=
  { brokenIndexBackend with repairIssue347 := fun _ err => (repairIssue347 sampleRepairBackend [] err).2 }

/-- The pass over `passGroup` with `repairingPassBackend`, right after its
worker repaired block 1. -/
def replacedPass : Pass :=
  { repairedPass with
    trace := (compactGroup repairingPassBackend singleWorker passGroup [.syncMetas none, .garbageCollect none]).1 }

theorem pass_repairs_replace_diagnosed_blocks_of_replaced_pass :
    (∀ t err, repairingPassBackend.repairIssue347 t err =
      (repairIssue347 sampleRepairBackend ((fun _ => []) t) err).2) ∧
    Reaches repairingPassBackend singleWorker [] replacedPass ∧
    replacedPass.trace = [] ++ replacedPass.trace.take 9 ++ [.repairIssue347 brokenBlockError none] ∧
    ∃ g ∈ replacedPass.sent, ∃ earlier calls id repairCalls, replacedPass.trace.take 9 = earlier ++ calls ∧
      Group.Compact repairingPassBackend.backend g ([] ++ earlier) =
        ([] ++ replacedPass.trace.take 9, .error brokenBlockError) ∧
      (repairIssue347 sampleRepairBackend ((fun _ => []) ([] ++ replacedPass.trace.take 9)) brokenBlockError).1 =
        (fun _ => []) ([] ++ replacedPass.trace.take 9) ++ repairCalls ∧
      Replaced repairCalls id none ∧
      ((∀ ev ∈ calls, ∀ cause ∈ answerErrors ev, isIssue347Error cause = false) →
        Diagnosed g calls id fun stats => stats.criticalErr = none ∧ stats.outOfOrderChunksErr = none ∧
          stats.issue347OutsideChunksErr ≠ none) :=
  have answers : ∀ t err, repairingPassBackend.repairIssue347 t err =
      (repairIssue347 sampleRepairBackend ((fun _ => []) t) err).2 := fun _ _ => rfl
  have reach : Reaches repairingPassBackend singleWorker [] replacedPass :=
    .tail (.tail (.tail (.tail (.single (.synced rfl rfl)) (.collected rfl rfl)) (.grouped rfl rfl))
      (.sendGroup rfl rfl (.refl _))) (@Step.iterate _ _ _ passGroup _ (.refl _) rfl)
  have split : replacedPass.trace = [] ++ replacedPass.trace.take 9 ++
      [.repairIssue347 brokenBlockError none] := by decide
  ⟨answers, reach, split,
    pass_repairs_replace_diagnosed_blocks sampleRepairBackend (fun _ => []) answers reach split⟩

end Thanos.Compact.Issue347Repair
