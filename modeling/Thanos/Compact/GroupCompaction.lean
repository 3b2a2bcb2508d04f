import Thanos.Compact.Collaborators

/-!
# Compacting one group

`Group.compact` and its wrapper `Group.Compact`, phase by phase: the overlap
check of the whole group, planning, the pre-compaction callback, the download
and verification fan-out, the merge by the low-level compactor, and then
either the deletion of the empty sources (no output block) or, for every
output block, its validation, upload and post-compaction callback, followed by
the marking of every planned block for deletion.

Every function takes the trace of the calls made before it and returns that
trace with its own calls appended, together with what the Go code returns.
Metrics, logs, tracing spans and the group's mutex are left out.

Two exits of the code do not return through these functions.  A collaborator
called in the goroutine of `Group.compact` may panic, and the deferred
`recover` of `Group.Compact` turns the panic into an error: `Group.Compact`
cuts the run at the first call that panics (`firstPanic`).  And
`g.SetLimit(cg.compactBlocksFetchConcurrency)` with a limit of zero makes the
first `g.Go` of the fan-out block forever: `Group.CompactBlocks` says when a
run gets there, and the pass gives such a worker no further step.
-/

namespace Thanos.Compact.GroupCompaction

open Thanos.Compact.Primitives
open Thanos.Compact.Errors
open Thanos.Compact.Metadata
open Thanos.Compact.CompactionGroup
open Thanos.Compact.Collaborators

section Compaction

variable (backend : Backend)

/-! ## Downloading and verifying the plan -/

/-- The checks of `HealthStats` on one downloaded input block, in the order of the code. -/
def checkIndexHealth (cg : Group) (meta : Meta) (stats : HealthStats) : Option Error :=
  match stats.criticalErr, stats.outOfOrderChunksErr, stats.issue347OutsideChunksErr,
      stats.outOfOrderLabelsErr with
  | some err, _, _, _ =>
    some (halt (.wrap s!"block with not healthy index found {meta.ulid}; Compaction level {meta.level}; Labels: {meta.thanos.labels}" err))
  | none, some err, _, _ =>
    some (outOfOrderChunkError
      (.wrap s!"blocks with out-of-order chunks are dropped from compaction:  {meta.ulid}" err) meta.ulid)
  | none, none, some err, _ =>
    some (issue347Error (.wrap s!"invalid, but reparable block {meta.ulid}" err) meta.ulid)
  | none, none, none, some err =>
    if cg.acceptMalformedIndex then none
    else some (.wrap s!"block id {meta.ulid}, try running with --debug.accept-malformed-index" err)
  | none, none, none, none => none

/-- One goroutine of the download fan-out: download the block, then check its index. -/
def verifyBlock (cg : Group) (trace : Trace) (meta : Meta) : Trace × Option Error :=
  let downloaded := backend.io.download trace meta.ulid
  let trace := trace ++ [.download meta.ulid downloaded]
  match downloaded with
  | some err => (trace, some (retry (.wrap s!"download block {meta.ulid}" err)))
  | none =>
    let gathered := backend.io.gatherIndexHealthStats trace meta.ulid meta.minTime meta.maxTime
    let trace := trace ++ [.gatherIndexHealthStats meta.ulid gathered]
    match gathered with
    | .error err => (trace, some (.wrap s!"gather index issues for block {meta.ulid}" err))
    | .ok stats => (trace, checkIndexHealth cg meta stats)

/-- `g.SetLimit(limit)` before `g.Go`: the errgroup's semaphore is a channel
with `limit` slots, and there is none for a negative limit.  With a limit of
zero the channel is unbuffered and nothing receives from it before a goroutine
ends, so the first `g.Go` blocks forever; a positive limit only bounds how
many goroutines run at once, and `FetchSchedule` leaves their order free. -/
def goBlocks (limit : Int) : Bool :=
  limit == 0

/-- The goroutines in the order they finish, and `g.Wait()`: every goroutine
runs to its end and the first error is returned.  This is the fan-out of a
limit under which `g.Go` returns (`goBlocks`). -/
def verifyBlocks (cg : Group) : Trace → List Meta → Trace × Option Error
  | trace, [] => (trace, none)
  | trace, meta :: rest =>
    let verified := verifyBlock backend cg trace meta
    let later := verifyBlocks cg verified.1 rest
    (later.1, verified.2.or later.2)

/-! ## Merging -/

/-- `GetBlockPopulator` and `CompactWithBlockPopulator`, both halting on error. -/
def mergeBlocks (cg : Group) (trace : Trace) (toCompactDirs : List Ulid) :
    Trace × Except Error (List Ulid) :=
  let populator := backend.compactionLifecycleCallback.getBlockPopulator trace cg
  let trace := trace ++ [.getBlockPopulator populator]
  match populator with
  | some err => (trace, .error (halt (.wrap s!"compact blocks {toCompactDirs}" err)))
  | none =>
    let compIDs := backend.comp.compactWithBlockPopulator trace toCompactDirs
    let trace := trace ++ [.compact toCompactDirs compIDs]
    match compIDs with
    | .error err => (trace, .error (halt (.wrap s!"compact blocks {toCompactDirs}" err)))
    | .ok compIDs => (trace, .ok compIDs)

/-! ## Deleting source blocks -/

/-- `Group.deleteBlock`: remove the local directory, then mark the block for
deletion in the bucket if the checker allows it. -/
def deleteBlock (cg : Group) (trace : Trace) (id : Ulid) : Trace × Option Error :=
  let removed := backend.io.removeAll trace id
  let trace := trace ++ [.removeAll id removed]
  match removed with
  | some err => (trace, some (.wrap s!"remove old block dir {id}" err))
  | none =>
    let allowed := backend.blockDeletableChecker.canDelete trace cg id
    let trace := trace ++ [.canDelete id allowed]
    if allowed then
      let marked := backend.io.markForDeletion trace id "source of compacted block"
      (trace ++ [.markForDeletion id "source of compacted block" marked],
        marked.map fun err => .wrap s!"mark block {id} for deletion from bucket" err)
    else (trace, none)

/-- No output block: the planned blocks without samples are deleted, and a
failure is only logged. -/
def deleteEmptySources (cg : Group) : Trace → List Meta → Trace
  | trace, [] => trace
  | trace, meta :: rest =>
    if meta.numSamples = 0 then
      deleteEmptySources cg (deleteBlock backend cg trace meta.ulid).1 rest
    else deleteEmptySources cg trace rest

/-- The loop marking every planned block for deletion; it stops at the first failure. -/
def markSourcesForDeletion (cg : Group) : Trace → List Meta → Trace × Option Error
  | trace, [] => (trace, none)
  | trace, meta :: rest =>
    let deleted := deleteBlock backend cg trace meta.ulid
    match deleted.2 with
    | some err => (deleted.1, some (retry (.wrap "mark old block for deletion from bucket" err)))
    | none => markSourcesForDeletion cg deleted.1 rest

/-! ## Validating and uploading the output blocks -/

/-- The index check, finalization and overlap check of an output block whose meta was read. -/
def finalizeCompactedBlock (cg : Group) (toCompact : List Meta) (trace : Trace) (compID : Ulid)
    (newMeta : Meta) : Trace × Option Error :=
  let gathered := backend.io.gatherIndexHealthStats trace compID newMeta.minTime newMeta.maxTime
  let trace := trace ++ [.gatherIndexHealthStats compID gathered]
  let verified := match gathered with
    | .error err => some err
    | .ok stats => stats.anyErr
  match verified, cg.acceptMalformedIndex with
  | some err, false => (trace, some (halt (.wrap s!"invalid result block {compID}" err)))
  | _, _ =>
    let injected := backend.io.injectThanos trace compID ⟨cg.labels, cg.resolution⟩
    let trace := trace ++ [.injectThanos compID injected]
    match injected with
    | .error err => (trace, some (.wrap s!"failed to finalize the block {compID}" err))
    | .ok newMeta =>
      if cg.enableVerticalCompaction then (trace, none)
      else (trace, (cg.areBlocksOverlapping backend.sortSlice (some newMeta) toCompact).map
        fun err => halt (.wrap s!"resulted compacted block {compID} overlaps with something" err))

/-- The checks of an output block before its upload. -/
def validateCompactedBlock (cg : Group) (toCompact : List Meta) (trace : Trace) (compID : Ulid) :
    Trace × Option Error :=
  let removed := backend.io.removeTombstones trace compID
  let trace := trace ++ [.removeTombstones compID removed]
  match removed with
  | some err => (trace, some (.wrap "remove tombstones" err))
  | none =>
    let read := backend.io.readFromDir trace compID
    let trace := trace ++ [.readFromDir compID read]
    match read with
    | .error err => (trace, some (.wrap "read new meta" err))
    | .ok newMeta => finalizeCompactedBlock backend cg toCompact trace compID newMeta

/-- One iteration of the loop over the output blocks: validate, upload, then
run the post-compaction callback. -/
def uploadCompactedBlock (cg : Group) (toCompact : List Meta) (trace : Trace) (compID : Ulid) :
    Trace × Option Error :=
  let validated := validateCompactedBlock backend cg toCompact trace compID
  match validated.2 with
  | some err => (validated.1, some err)
  | none =>
    let uploaded := backend.io.upload validated.1 compID
    let trace := validated.1 ++ [.upload compID uploaded]
    match uploaded with
    | some err => (trace, some (retry (.wrap s!"upload of {compID} failed" err)))
    | none =>
      let called := backend.compactionLifecycleCallback.postCompactionCallback trace cg compID
      (trace ++ [.postCompactionCallback compID called], called.map fun err =>
        retry (.wrap s!"failed to run post compaction callback for result block {compID}" err))

/-- The loop over the output blocks; it stops at the first failure. -/
def uploadCompactedBlocks (cg : Group) (toCompact : List Meta) :
    Trace → List Ulid → Trace × Option Error
  | trace, [] => (trace, none)
  | trace, compID :: rest =>
    let uploaded := uploadCompactedBlock backend cg toCompact trace compID
    match uploaded.2 with
    | some err => (uploaded.1, some err)
    | none => uploadCompactedBlocks cg toCompact uploaded.1 rest

/-! ## The compaction of a group -/

/-- `Group.compact` once the planner returned a non-empty plan. -/
def Group.compactPlan (cg : Group) (trace : Trace) (toCompact : List Meta) :
    Trace × Except Error (Bool × List Ulid) :=
  let toCompactDirs := toCompact.map (·.ulid)
  let checked := backend.compactionLifecycleCallback.preCompactionCallback trace cg toCompact
  let trace := trace ++ [.preCompactionCallback toCompact checked]
  match checked with
  | some err =>
    (trace, .error (.wrap s!"failed to run pre compaction callback for plan: {toCompactDirs}" err))
  | none =>
    let verified := verifyBlocks backend cg trace (backend.schedule.order trace toCompact)
    match verified.2 with
    | some err => (verified.1, .error err)
    | none =>
      let merged := mergeBlocks backend cg verified.1 toCompactDirs
      match merged.2 with
      | .error err => (merged.1, .error err)
      | .ok [] => (deleteEmptySources backend cg merged.1 toCompact, .ok (true, []))
      | .ok compIDs =>
        let uploaded := uploadCompactedBlocks backend cg toCompact merged.1 compIDs
        match uploaded.2 with
        | some err => (uploaded.1, .error err)
        | none =>
          let marked := markSourcesForDeletion backend cg uploaded.1 toCompact
          match marked.2 with
          | some err => (marked.1, .error err)
          | none => (marked.1, .ok (true, compIDs))

/-- `Group.compact`: the overlap check of the whole group, planning, and the
compaction of a non-empty plan. -/
def Group.compact (cg : Group) (trace : Trace) : Trace × Except Error (Bool × List Ulid) :=
  match cg.areBlocksOverlapping backend.sortSlice none [], cg.enableVerticalCompaction with
  | some err, false => (trace, .error (halt (.wrap "pre compaction overlap check" err)))
  | _, _ =>
    let toCompact := backend.planner.plan trace cg.metasByMinTime
    let trace := trace ++ [.plan cg.metasByMinTime toCompact]
    match toCompact with
    | .error err => (trace, .error (.wrap "plan compaction" err))
    | .ok [] => (trace, .ok (false, []))
    | .ok toCompact => Group.compactPlan backend cg trace toCompact

/-! ## The recovered panics -/

/-- The calls `Group.compact` makes in its own goroutine, where the `recover`
of `Group.Compact` catches a panic: all but the downloads and index reads.
The downloads and index reads of the fan-out run in the errgroup's
goroutines, where a panic ends the program; the index read of an output block
is the same `block.GatherIndexHealthStats` and is taken not to panic. -/
def recoverable : Event → Bool
  | .download _ _ | .gatherIndexHealthStats _ _ => false
  | _ => true

/-- The first of the calls `calls`, made after `trace`, that panics where it
is recovered: the calls before it, and the value it panics with. -/
def firstPanic (panics : Trace → Event → Option String) (trace : Trace) :
    Trace → Option (Trace × String)
  | [] => none
  | ev :: rest =>
    match if recoverable ev then panics trace ev else none with
    | some p => some ([], p)
    | none => (firstPanic panics (trace ++ [ev]) rest).map fun (before, p) => (ev :: before, p)

/-- The error of the deferred `recover`,
`fmt.Errorf("panicked while compacting %s: %v", ...)`, over the group's IDs
joined by commas.  It wraps nothing. -/
def panickedWhileCompacting (ids : List Ulid) (p : String) : Error :=
  let joined := ",".intercalate (ids.map toString)
  .new s!"panicked while compacting {joined}: {p}"

/-- `Group.Compact`: `Group.compact` in the group's work directory, which is
removed after a success (a failure to remove it is only logged).  A panic in
the goroutine of `Group.compact` is recovered into an error, and the directory
is then left in place. -/
def Group.Compact (cg : Group) (trace : Trace) : Trace × Except Error (Bool × List Ulid) :=
  let made := backend.io.mkdirAll trace
  let trace := trace ++ [.mkdirAll made]
  match made with
  | some err => (trace, .error (.wrap "create compaction group dir" err))
  | none =>
    let compacted := Group.compact backend cg trace
    match firstPanic backend.panics trace (compacted.1.drop trace.length) with
    | some (before, p) =>
      (trace ++ before, .error (panickedWhileCompacting (cg.ids backend.sortSlice) p))
    | none =>
      match compacted.2 with
      | .error err => (compacted.1, .error err)
      | .ok result =>
        (compacted.1 ++ [.removeGroupDir (backend.io.removeGroupDir compacted.1)], .ok result)

/-- The pre-compaction callback let the plan through: the download fan-out comes next. -/
def checkedPlan : Event → Bool
  | .preCompactionCallback _ none => true
  | _ => false

/-- Whether `Group.Compact` from `trace` never returns: its run got past the
pre-compaction callback of a plan, which is never empty, to a fan-out whose
first `g.Go` blocks. -/
def Group.CompactBlocks (cg : Group) (trace : Trace) : Bool :=
  goBlocks cg.compactBlocksFetchConcurrency &&
    ((Group.Compact backend cg trace).1.drop trace.length).any checkedPlan

end Compaction

end Thanos.Compact.GroupCompaction
