import Mathlib.Logic.Relation
import Mathlib.Algebra.BigOperators.Group.List
import Mathlib.Algebra.Order.Ring.Nat
import Thanos.Compact.CompactionFailures

/-!
# The passes of the bucket compactor

`BucketCompactor.Compact` runs passes until one finds no more work.  A pass
starts `concurrency` worker goroutines that take groups from the unbuffered
channel `groupChan` and run `Group.Compact` on each.  The main goroutine then
syncs the metas, collects garbage, builds the groups and sends every group
with more than one block to the workers, stopping at the first error it
receives from the buffered channel `errChan`.  It closes `groupChan`, waits
for the workers, drains `errChan`, and then returns the errors, ends the loop,
or starts another pass.

`Pass` is the state of one pass: the program counter of the main goroutine and
of each worker, the two channels, the flag `finishedAllGroups` and the trace
of calls.  Three history fields record what was sent on `groupChan`, what
each iteration of a worker did, and what was sent on `errChan`.  `Step` is one
step of one goroutine, and an interleaving of the goroutines is a sequence of
steps.  One iteration of a worker's loop (`compactGroup`) is one step: the
workers share nothing but `finishedAllGroups`, which they write under `mtx`.
Workers are interchangeable, so a step picks any worker in the given state.
A worker whose `Group.Compact` blocks forever in the download fan-out
(`Group.CompactBlocks`) has no step.

The metrics, the logger, the work context, the removal of stale directories
(`runutil.DeleteAll`, whose failure is only logged) and the removal of the
work directory when `Compact` returns nil are left out.
-/

namespace Thanos.Compact.CompactionPasses

open Thanos.Compact.Primitives
open Thanos.Compact.Errors
open Thanos.Compact.Metadata
open Thanos.Compact.CompactionGroup
open Thanos.Compact.Collaborators
open Thanos.Compact.GroupCompaction
open Thanos.Compact.CompactionPhases
open Thanos.Compact.CompactionSafety
open Thanos.Compact.CompactionFailures

/-! ## The compactor and its collaborators -/

/-- `BucketCompactor`, with the fields a pass reads; `concurrency` is positive
as `NewBucketCompactor` checks. -/
structure BucketCompactor where
  concurrency : Nat
  skipBlocksWithOutOfOrderChunks : Bool
  concurrency_pos : 0 < concurrency

/-- `NewBucketCompactor`: refused unless `concurrency > 0`. -/
def newBucketCompactor (concurrency : Int) (skipBlocksWithOutOfOrderChunks : Bool) :
    Except Error BucketCompactor :=
  if positive : concurrency ≤ 0 then
    .error (.new s!"invalid concurrency level ({concurrency}), concurrency level must be > 0")
  else
    .ok ⟨concurrency.toNat, skipBlocksWithOutOfOrderChunks, by omega⟩

/-- What a pass calls besides `Group.Compact`: the syncer, the grouper, and
the two repairs a worker can make. -/
structure PassBackend where
  backend : Backend
  syncMetas : Trace → Option Error
  garbageCollect : Trace → Option Error
  metas : Trace → List Meta
  groups : List Meta → Except Error (List Group)
  repairIssue347 : Trace → Error → Option Error
  markForNoCompact : Trace → Ulid → Option Error

/-! ## One iteration of a worker -/

/-- What one iteration of a worker's loop did with its group. -/
inductive GroupOutcome where
  /-- `Group.Compact` succeeded and asked, or not, for another pass. -/
  | compacted (shouldRerunGroup : Bool)
  /-- The block broken by Issue 347 was repaired. -/
  | repaired
  /-- The block with out-of-order chunks was marked for no compaction. -/
  | markedNoCompact
  /-- The worker sends `err` on `errChan` and returns. -/
  | failed (err : Error)
  /-- The type assertion `err.(OutOfOrderChunksError)` panicked. -/
  | panicked
deriving DecidableEq

/-- Whether the iteration sets `finishedAllGroups` to false. -/
def GroupOutcome.rerun : GroupOutcome → Bool
  | .compacted shouldRerunGroup => shouldRerunGroup
  | .repaired | .markedNoCompact => true
  | .failed _ | .panicked => false

/-- The error the iteration sends on `errChan`. -/
def GroupOutcome.published : GroupOutcome → Option Error
  | .failed err => some err
  | _ => none

/-- The type assertion `err.(OutOfOrderChunksError)`: the error itself, not its cause. -/
def outOfOrderChunksId : Error → Option Ulid
  | .outOfOrderChunksError _ id => some id
  | _ => none

section Worker

variable (pb : PassBackend) (c : BucketCompactor)

/-- The no-compact marking of a block with out-of-order chunks, when skipping
is on; otherwise, or when the marking fails, the error is published. -/
def skipOutOfOrderChunks (g : Group) (trace : Trace) (err : Error) : Trace × GroupOutcome :=
  if isOutOfOrderChunkError err && c.skipBlocksWithOutOfOrderChunks then
    match outOfOrderChunksId err with
    | none => (trace, .panicked)
    | some id =>
      let marked := pb.markForNoCompact trace id
      let trace := trace ++ [.markForNoCompact id marked]
      match marked with
      | none => (trace, .markedNoCompact)
      | some _ => (trace, .failed (.wrap s!"group {g.key}" err))
  else (trace, .failed (.wrap s!"group {g.key}" err))

/-- A failed `Group.Compact`: repair the block of an Issue-347 error, or go on
to the out-of-order-chunks check. -/
def handleGroupError (g : Group) (trace : Trace) (err : Error) : Trace × GroupOutcome :=
  if isIssue347Error err then
    let repaired := pb.repairIssue347 trace err
    let trace := trace ++ [.repairIssue347 err repaired]
    match repaired with
    | none => (trace, .repaired)
    | some _ => skipOutOfOrderChunks pb c g trace err
  else skipOutOfOrderChunks pb c g trace err

/-- One iteration of a worker's loop on the group `g`. -/
def compactGroup (g : Group) (trace : Trace) : Trace × GroupOutcome :=
  let compacted := Group.Compact pb.backend g trace
  match compacted.2 with
  | .ok (shouldRerunGroup, _) => (compacted.1, .compacted shouldRerunGroup)
  | .error err => handleGroupError pb c g compacted.1 err

theorem skipOutOfOrderChunks_extends (g : Group) (trace : Trace) (err : Error) :
    ∃ calls, (skipOutOfOrderChunks pb c g trace err).1 = trace ++ calls := by
  unfold skipOutOfOrderChunks
  split_ifs
  · split
    · exact ⟨[], (List.append_nil _).symm⟩
    · dsimp only
      split <;> exact ⟨_, rfl⟩
  · exact ⟨[], (List.append_nil _).symm⟩

theorem handleGroupError_extends (g : Group) (trace : Trace) (err : Error) :
    ∃ calls, (handleGroupError pb c g trace err).1 = trace ++ calls := by
  unfold handleGroupError
  split_ifs
  · dsimp only
    split
    · exact ⟨_, rfl⟩
    · obtain ⟨more, skipped⟩ := skipOutOfOrderChunks_extends pb c g (trace ++ [.repairIssue347 err
        (pb.repairIssue347 trace err)]) err
      exact ⟨_, by rw [skipped, List.append_assoc]⟩
  · exact skipOutOfOrderChunks_extends pb c g trace err

/-- An iteration only appends to the trace. -/
theorem compactGroup_extends (g : Group) (trace : Trace) :
    ∃ calls, (compactGroup pb c g trace).1 = trace ++ calls := by
  obtain ⟨calls, compacted⟩ := Compact_extends pb.backend g trace
  unfold compactGroup
  dsimp only
  split
  · exact ⟨calls, compacted⟩
  · rename_i err _
    obtain ⟨more, handled⟩ := handleGroupError_extends pb c g (Group.Compact pb.backend g trace).1 err
    exact ⟨_, by rw [handled, compacted, List.append_assoc]⟩

end Worker

/-! ## The state of a pass -/

/-- Where a worker goroutine is. -/
inductive Worker where
  /-- Blocked in `for g := range groupChan`. -/
  | receiving
  /-- Received `g`; its iteration is its next step. -/
  | compacting (g : Group)
  /-- About to run `errChan <- err` and return. -/
  | publishing (err : Error)
  /-- Returned. -/
  | exited
  /-- Panicked, which stops the program. -/
  | panicked

/-- Where the worker goes after an iteration. -/
def GroupOutcome.next : GroupOutcome → Worker
  | .failed err => .publishing err
  | .panicked => .panicked
  | _ => .receiving

/-- The group a worker holds between receiving it and ending its iteration. -/
def Worker.holding : Worker → Option Group
  | .compacting g => some g
  | _ => none

/-- The error a worker is about to send on `errChan`. -/
def Worker.pending : Worker → Option Error
  | .publishing err => some err
  | _ => none

/-- Whether the goroutine has not returned. -/
def Worker.live : Worker → Bool
  | .exited => false
  | _ => true

/-- Where the main goroutine of a pass is. -/
inductive Main where
  | syncMetas
  | garbageCollect
  | buildGroups
  /-- In `groupLoop`, with the groups not visited yet. -/
  | sendGroups (rest : List Group)
  /-- In `wg.Wait()`, after `close(groupChan)`. -/
  | waitWorkers
  /-- `Compact` returned `err` before the groups were sent. -/
  | returned (err : Error)
  /-- `Compact` returns `groupErrs.Err()`. -/
  | failed (groupErrs : List Error)
  /-- The loop breaks and `Compact` returns nil. -/
  | finished
  /-- The loop starts another pass. -/
  | rerun

/-- After draining `errChan`: return the errors, end the loop, or run again. -/
def joined (groupErrs : List Error) (finishedAllGroups : Bool) : Main :=
  if groupErrs.length > 0 then .failed groupErrs
  else if finishedAllGroups then .finished
  else .rerun

/-- One pass of `BucketCompactor.Compact`. -/
structure Pass where
  main : Main
  workers : List Worker
  groupChanClosed : Bool
  /-- The buffer of `errChan`, oldest first. -/
  errChan : List Error
  finishedAllGroups : Bool
  groupErrs : List Error
  trace : Trace
  /-- History: the groups the grouper built. -/
  groups : List Group
  /-- History: the groups sent on `groupChan`, in order. -/
  sent : List Group
  /-- History: every iteration of a worker, in order. -/
  results : List (Group × GroupOutcome)
  /-- History: the errors sent on `errChan`, in order. -/
  published : List Error

/-- The pass right after the workers were started. -/
def Pass.start (c : BucketCompactor) (trace : Trace) : Pass where
  main := .syncMetas
  workers := List.replicate c.concurrency .receiving
  groupChanClosed := false
  errChan := []
  finishedAllGroups := true
  groupErrs := []
  trace := trace
  groups := []
  sent := []
  results := []
  published := []

/-- `len(g.IDs()) == 1`: a group with nothing to compact. -/
def singleBlock (sortSlice : SortSlice) (g : Group) : Bool :=
  (g.ids sortSlice).length == 1

/-- One step of one goroutine of a pass. -/
inductive Step (pb : PassBackend) (c : BucketCompactor) : Pass → Pass → Prop
  /-- `c.sy.SyncMetas` failed: `Compact` returns. -/
  | syncFailed {s : Pass} {err : Error} (main : s.main = .syncMetas)
      (failed : pb.syncMetas s.trace = some err) :
      Step pb c s
        { s with
          main := .returned (.wrap "sync" err)
          trace := s.trace ++ [.syncMetas (some err)] }
  | synced {s : Pass} (main : s.main = .syncMetas) (ok : pb.syncMetas s.trace = none) :
      Step pb c s
        { s with
          main := .garbageCollect
          trace := s.trace ++ [.syncMetas none] }
  /-- `c.sy.GarbageCollect` failed: `Compact` returns. -/
  | collectFailed {s : Pass} {err : Error} (main : s.main = .garbageCollect)
      (failed : pb.garbageCollect s.trace = some err) :
      Step pb c s
        { s with
          main := .returned (.wrap "garbage" err)
          trace := s.trace ++ [.garbageCollect (some err)] }
  | collected {s : Pass} (main : s.main = .garbageCollect) (ok : pb.garbageCollect s.trace = none) :
      Step pb c s
        { s with
          main := .buildGroups
          trace := s.trace ++ [.garbageCollect none] }
  /-- `c.grouper.Groups` failed: `Compact` returns. -/
  | groupingFailed {s : Pass} {err : Error} (main : s.main = .buildGroups)
      (failed : pb.groups (pb.metas s.trace) = .error err) :
      Step pb c s { s with main := .returned (.wrap "build compaction groups" err) }
  | grouped {s : Pass} {groups : List Group} (main : s.main = .buildGroups)
      (ok : pb.groups (pb.metas s.trace) = .ok groups) :
      Step pb c s
        { s with
          main := .sendGroups groups
          groups := groups }
  /-- A group with one block is not sent. -/
  | skipGroup {s : Pass} {g : Group} {rest : List Group} (main : s.main = .sendGroups (g :: rest))
      (single : singleBlock pb.backend.sortSlice g = true) :
      Step pb c s { s with main := .sendGroups rest }
  /-- The `select` received an error: break, and `close(groupChan)`. -/
  | receiveError {s : Pass} {g : Group} {rest : List Group} {err : Error} {pending : List Error}
      (main : s.main = .sendGroups (g :: rest)) (multi : singleBlock pb.backend.sortSlice g = false)
      (buffered : s.errChan = err :: pending) :
      Step pb c s
        { s with
          main := .waitWorkers
          groupChanClosed := true
          errChan := pending
          groupErrs := s.groupErrs ++ [err] }
  /-- The `select` sent the group to a worker blocked on `groupChan`. -/
  | sendGroup {s : Pass} {g : Group} {rest : List Group} {others : List Worker}
      (main : s.main = .sendGroups (g :: rest)) (multi : singleBlock pb.backend.sortSlice g = false)
      (ready : s.workers.Perm (.receiving :: others)) :
      Step pb c s
        { s with
          main := .sendGroups rest
          workers := .compacting g :: others
          sent := s.sent ++ [g] }
  /-- The loop visited every group: `close(groupChan)`. -/
  | closeGroups {s : Pass} (main : s.main = .sendGroups []) :
      Step pb c s
        { s with
          main := .waitWorkers
          groupChanClosed := true }
  /-- `wg.Wait()` returned: drain `errChan` and decide how the pass ends. -/
  | join {s : Pass} (main : s.main = .waitWorkers) (exited : ∀ w ∈ s.workers, w = .exited) :
      Step pb c s
        { s with
          main := joined (s.groupErrs ++ s.errChan) s.finishedAllGroups
          groupErrs := s.groupErrs ++ s.errChan
          errChan := [] }
  /-- A worker's `range` over the closed `groupChan` ends. -/
  | exit {s : Pass} {others : List Worker} (closed : s.groupChanClosed = true)
      (ready : s.workers.Perm (.receiving :: others)) :
      Step pb c s { s with workers := .exited :: others }
  /-- A worker runs one iteration of its loop, unless its `Group.Compact`
  blocks forever in the download fan-out. -/
  | iterate {s : Pass} {g : Group} {others : List Worker}
      (holding : s.workers.Perm (.compacting g :: others))
      (returns : Group.CompactBlocks pb.backend g s.trace = false) :
      Step pb c s
        { s with
          workers := (compactGroup pb c g s.trace).2.next :: others
          trace := (compactGroup pb c g s.trace).1
          results := s.results ++ [(g, (compactGroup pb c g s.trace).2)]
          finishedAllGroups := s.finishedAllGroups && !(compactGroup pb c g s.trace).2.rerun }
  /-- A worker sends its error on `errChan`, which has room, and returns. -/
  | publish {s : Pass} {err : Error} {others : List Worker}
      (holding : s.workers.Perm (.publishing err :: others)) (room : s.errChan.length < c.concurrency) :
      Step pb c s
        { s with
          workers := .exited :: others
          errChan := s.errChan ++ [err]
          published := s.published ++ [err] }

/-- The states an interleaving of one pass reaches from its start. -/
def Reaches (pb : PassBackend) (c : BucketCompactor) (trace : Trace) (s : Pass) : Prop :=
  Relation.ReflTransGen (Step pb c) (Pass.start c trace) s

/-- `BucketCompactor.Compact` from `trace` returns `result`: passes that end in
`rerun`, then one that ends the loop or returns. -/
inductive CompactRuns (pb : PassBackend) (c : BucketCompactor) : Trace → Option Error → Prop
  | returned {trace : Trace} {s : Pass} {err : Error} (reach : Reaches pb c trace s)
      (main : s.main = .returned err) : CompactRuns pb c trace (some err)
  | failed {trace : Trace} {s : Pass} {groupErrs : List Error} (reach : Reaches pb c trace s)
      (main : s.main = .failed groupErrs) :
      CompactRuns pb c trace (some (.nonNilMultiRootError groupErrs))
  | finished {trace : Trace} {s : Pass} (reach : Reaches pb c trace s)
      (main : s.main = .finished) : CompactRuns pb c trace none
  | rerun {trace : Trace} {s : Pass} {result : Option Error} (reach : Reaches pb c trace s)
      (main : s.main = .rerun) (next : CompactRuns pb c s.trace result) :
      CompactRuns pb c trace result

/-! ## What every interleaving keeps

Each invariant has a step lemma, proved by cases on the step, and holds in
every reachable state by `Reaches.invariant`. -/

/-- The groups the loop sends: those with more than one block. -/
def sendable (sortSlice : SortSlice) (groups : List Group) : List Group :=
  groups.filter fun g => !singleBlock sortSlice g

/-- The groups sent so far are the first sendable groups, and all of them
unless the loop received an error. -/
def Pass.SentGroups (sortSlice : SortSlice) (s : Pass) : Prop :=
  s.sent <+: sendable sortSlice s.groups ∧ (s.sent = sendable sortSlice s.groups ∨ s.groupErrs ≠ [])

/-- `wg.Wait()` returned and `errChan` was drained. -/
def Pass.Drained (s : Pass) : Prop :=
  s.groupChanClosed = true ∧ s.errChan = [] ∧ ∀ w ∈ s.workers, w = .exited

/-- What holds at each point of the main goroutine. -/
def Pass.Phase (sortSlice : SortSlice) (s : Pass) : Prop :=
  match s.main with
  | .syncMetas | .garbageCollect | .buildGroups | .returned _ =>
    s.sent = [] ∧ s.groupErrs = [] ∧ s.groupChanClosed = false ∧ ∀ w ∈ s.workers, w = .receiving
  | .sendGroups rest =>
    s.sent ++ sendable sortSlice rest = sendable sortSlice s.groups ∧ s.groupChanClosed = false ∧
      s.groupErrs = []
  | .waitWorkers => s.SentGroups sortSlice ∧ s.groupChanClosed = true
  | .failed groupErrs =>
    s.SentGroups sortSlice ∧ s.Drained ∧ groupErrs = s.groupErrs ∧ s.groupErrs ≠ []
  | .finished => s.SentGroups sortSlice ∧ s.Drained ∧ s.groupErrs = [] ∧ s.finishedAllGroups = true
  | .rerun => s.SentGroups sortSlice ∧ s.Drained ∧ s.groupErrs = [] ∧ s.finishedAllGroups = false

@[simp]
theorem sendable_cons (sortSlice : SortSlice) (g : Group) (rest : List Group) :
    sendable sortSlice (g :: rest) =
      if singleBlock sortSlice g then sendable sortSlice rest else g :: sendable sortSlice rest := by
  cases single : singleBlock sortSlice g <;> simp [sendable, List.filter_cons, single]

@[simp]
theorem GroupOutcome.pending_next (outcome : GroupOutcome) : outcome.next.pending = outcome.published := by
  cases outcome <;> rfl

@[simp]
theorem GroupOutcome.holding_next (outcome : GroupOutcome) : outcome.next.holding = none := by
  cases outcome <;> rfl

@[simp]
theorem GroupOutcome.live_next (outcome : GroupOutcome) : outcome.next.live = true := by
  cases outcome <;> rfl

/-- The outcomes that keep `finishedAllGroups`. -/
theorem GroupOutcome.rerun_eq_false_iff (outcome : GroupOutcome) :
    outcome.rerun = false ↔
      outcome ≠ .compacted true ∧ outcome ≠ .repaired ∧ outcome ≠ .markedNoCompact := by
  cases outcome with
  | compacted shouldRerunGroup => cases shouldRerunGroup <;> simp [GroupOutcome.rerun]
  | _ => simp [GroupOutcome.rerun]

section Invariants

variable {pb : PassBackend} {c : BucketCompactor}

/-- A property of the start that every step keeps holds in every reachable state. -/
theorem Reaches.invariant {P : Pass → Prop} {trace : Trace} {s : Pass}
    (start : P (Pass.start c trace)) (step : ∀ {s s'}, P s → Step pb c s s' → P s')
    (reach : Reaches pb c trace s) : P s := by
  induction reach with
  | refl => exact start
  | tail _ next holds => exact step holds next

theorem length_workers_step {s s' : Pass} (holds : s.workers.length = c.concurrency)
    (step : Step pb c s s') : s'.workers.length = c.concurrency := by
  cases step with
  | sendGroup _ _ ready | exit _ ready | iterate ready | publish ready _ =>
    rw [← holds, ready.length_eq]
    rfl
  | _ => exact holds

/-- Every error sent on `errChan` was received by the loop, or is still buffered. -/
theorem collected_step {s s' : Pass} (holds : s.groupErrs ++ s.errChan = s.published)
    (step : Step pb c s s') : s'.groupErrs ++ s'.errChan = s'.published := by
  cases step with
  | receiveError _ _ buffered =>
    rw [← holds, buffered]
    simp
  | join => simpa using holds
  | publish => rw [← holds, List.append_assoc]
  | _ => exact holds

/-- A worker sends on `errChan` at most once, and only by returning. -/
theorem capacity_step {s s' : Pass}
    (holds : s.published.length + s.workers.countP Worker.live ≤ c.concurrency)
    (step : Step pb c s s') : s'.published.length + s'.workers.countP Worker.live ≤ c.concurrency := by
  cases step with
  | sendGroup _ _ ready | exit _ ready | iterate ready | publish ready =>
    rw [ready.countP_eq] at holds
    simp only [List.countP_cons, GroupOutcome.live_next] at holds ⊢
    simp [Worker.live] at holds ⊢
    omega
  | _ => exact holds

/-- While `groupChan` is open, a worker returns only by sending its error. -/
theorem unclosed_step {s s' : Pass}
    (holds : s.groupChanClosed = false →
      s.published.length + s.workers.countP Worker.live = c.concurrency)
    (step : Step pb c s s') :
    s'.groupChanClosed = false →
      s'.published.length + s'.workers.countP Worker.live = c.concurrency := by
  cases step with
  | receiveError | closeGroups => exact nofun
  | exit closed => simp [closed]
  | sendGroup _ _ ready | iterate ready | publish ready =>
    intro unclosed
    have before := holds unclosed
    rw [ready.countP_eq] at before
    simp only [List.countP_cons, GroupOutcome.live_next] at before ⊢
    simp [Worker.live] at before ⊢
    omega
  | _ => exact holds

/-- Every group sent was compacted once, or is held by the worker compacting it. -/
theorem handed_step {s s' : Pass}
    (holds : (s.results.map Prod.fst ++ s.workers.filterMap Worker.holding).Perm s.sent)
    (step : Step pb c s s') :
    (s'.results.map Prod.fst ++ s'.workers.filterMap Worker.holding).Perm s'.sent := by
  cases step with
  | sendGroup _ _ ready =>
    have before := ((ready.filterMap Worker.holding).append_left _).symm.trans holds
    simp only [List.filterMap_cons, Worker.holding] at before ⊢
    exact List.perm_middle.trans ((before.cons _).trans (List.perm_append_singleton _ _).symm)
  | exit _ ready | iterate ready | publish ready _ =>
    have before := ((ready.filterMap Worker.holding).append_left _).symm.trans holds
    simp only [List.filterMap_cons, GroupOutcome.holding_next] at before ⊢
    simpa [Worker.holding] using before
  | _ => exact holds

/-- Every failed iteration's error was sent on `errChan`, or is about to be. -/
theorem reported_step {s s' : Pass}
    (holds : (s.published ++ s.workers.filterMap Worker.pending).Perm
      (s.results.filterMap (·.2.published)))
    (step : Step pb c s s') :
    (s'.published ++ s'.workers.filterMap Worker.pending).Perm
      (s'.results.filterMap (·.2.published)) := by
  cases step with
  | sendGroup _ _ ready | exit _ ready =>
    have before := ((ready.filterMap Worker.pending).append_left _).symm.trans holds
    simpa [List.filterMap_cons, Worker.pending] using before
  | @iterate g _ ready =>
    have before := ((ready.filterMap Worker.pending).append_left _).symm.trans holds
    simp only [List.filterMap_cons, Worker.pending] at before
    simp only [List.filterMap_cons, GroupOutcome.pending_next, List.filterMap_append,
      List.filterMap_nil]
    generalize (compactGroup pb c g s.trace).2.published = published
    cases published
    · simpa using before
    · simpa using List.perm_middle.trans ((before.cons _).trans (List.perm_append_singleton _ _).symm)
  | publish ready _ =>
    have before := ((ready.filterMap Worker.pending).append_left _).symm.trans holds
    simp only [List.filterMap_cons, Worker.pending] at before ⊢
    simpa using before
  | _ => exact holds

/-- `finishedAllGroups` stays true exactly while no iteration asked for another pass. -/
theorem finished_step {s s' : Pass}
    (holds : s.finishedAllGroups = s.results.all fun result => !result.2.rerun)
    (step : Step pb c s s') :
    s'.finishedAllGroups = s'.results.all fun result => !result.2.rerun := by
  cases step with
  | iterate => simp [holds]
  | _ => exact holds

/-- A worker step keeps the phase: it leaves the main goroutine's fields alone,
and no worker moves before the groups are sent or after the pass ended. -/
theorem Pass.Phase.of_worker {sortSlice : SortSlice} {s s' : Pass} {w : Worker}
    (holds : s.Phase sortSlice) (mem : w ∈ s.workers) (moving : w ≠ .exited)
    (blocked : w = .receiving → s.groupChanClosed = true) (main : s'.main = s.main)
    (sent : s'.sent = s.sent) (groups : s'.groups = s.groups)
    (closed : s'.groupChanClosed = s.groupChanClosed) (errs : s'.groupErrs = s.groupErrs) :
    s'.Phase sortSlice := by
  unfold Pass.Phase at holds ⊢
  rw [main]
  revert holds
  cases s.main <;> intro holds
  case sendGroups | waitWorkers => simpa only [Pass.SentGroups, sent, groups, closed, errs] using holds
  case syncMetas | garbageCollect | buildGroups | returned =>
    exact absurd (blocked (holds.2.2.2 w mem)) (by simp [holds.2.2.1])
  all_goals exact absurd (holds.2.1.2.2 w mem) moving

/-- The phase of the main goroutine is kept by every step. -/
theorem phase_step {s s' : Pass} (holds : s.Phase pb.backend.sortSlice) (step : Step pb c s s') :
    s'.Phase pb.backend.sortSlice := by
  have keeps : ∀ {errs : List Error}, s.SentGroups pb.backend.sortSlice →
      s.groupErrs <+: errs → ({ s with groupErrs := errs } : Pass).SentGroups pb.backend.sortSlice :=
    fun ⟨prefix_, all⟩ ⟨_, longer⟩ => ⟨prefix_, all.imp_right fun nonempty empty =>
      nonempty (List.append_eq_nil.mp (longer.trans empty)).1⟩
  cases step with
  | syncFailed main _ | synced main _ | collectFailed main _ | collected main _
  | groupingFailed main _ =>
    simp only [Pass.Phase, main] at holds ⊢
    exact holds
  | grouped main _ =>
    simp only [Pass.Phase, main] at holds ⊢
    simp [holds.1, holds.2.1, holds.2.2.1]
  | skipGroup main single =>
    simp only [Pass.Phase, main] at holds ⊢
    simpa [single] using holds
  | sendGroup main multi =>
    simp only [Pass.Phase, main] at holds ⊢
    simpa [multi] using holds
  | receiveError main =>
    simp only [Pass.Phase, main] at holds ⊢
    exact ⟨⟨⟨_, holds.1⟩, .inr (by simp)⟩, trivial⟩
  | closeGroups main =>
    simp only [Pass.Phase, main, sendable, List.filter_nil, List.append_nil] at holds ⊢
    exact ⟨⟨holds.1 ▸ List.prefix_refl _, .inl holds.1⟩, trivial⟩
  | join main exited =>
    simp only [Pass.Phase, main] at holds
    have sent := keeps holds.1 (List.prefix_append s.groupErrs s.errChan)
    have drained : Pass.Drained { s with groupErrs := s.groupErrs ++ s.errChan, errChan := [] } :=
      ⟨holds.2, rfl, exited⟩
    unfold Pass.Phase joined
    split_ifs with nonempty finished
    · exact ⟨sent, drained, rfl, List.ne_nil_of_length_pos nonempty⟩
    · exact ⟨sent, drained, by simpa using nonempty, finished⟩
    · exact ⟨sent, drained, by simpa using nonempty, by simpa using finished⟩
  | exit closed ready =>
    exact holds.of_worker (ready.mem_iff.mpr (List.mem_cons_self _ _)) (by simp) (fun _ => closed)
      rfl rfl rfl rfl rfl
  | iterate ready | publish ready _ =>
    exact holds.of_worker (ready.mem_iff.mpr (List.mem_cons_self _ _)) (by simp) (by simp)
      rfl rfl rfl rfl rfl

/-- What every reachable state of a pass satisfies. -/
structure Pass.Invariant (pb : PassBackend) (c : BucketCompactor) (s : Pass) : Prop where
  length_workers : s.workers.length = c.concurrency
  collected : s.groupErrs ++ s.errChan = s.published
  capacity : s.published.length + s.workers.countP Worker.live ≤ c.concurrency
  unclosed : s.groupChanClosed = false →
    s.published.length + s.workers.countP Worker.live = c.concurrency
  handed : (s.results.map Prod.fst ++ s.workers.filterMap Worker.holding).Perm s.sent
  reported : (s.published ++ s.workers.filterMap Worker.pending).Perm
    (s.results.filterMap (·.2.published))
  finished : s.finishedAllGroups = s.results.all fun result => !result.2.rerun
  phase : s.Phase pb.backend.sortSlice

theorem Pass.Invariant.start (trace : Trace) : (Pass.start c trace).Invariant pb c where
  length_workers := List.length_replicate _ _
  collected := rfl
  capacity := by
    simpa [Pass.start] using (List.countP_le_length _).trans_eq (List.length_replicate _ _)
  unclosed _ := by simp [Pass.start, List.countP_replicate, Worker.live]
  handed := by simp [Pass.start, Worker.holding]
  reported := by simp [Pass.start, Worker.pending]
  finished := rfl
  phase := ⟨rfl, rfl, rfl, fun _ => List.eq_of_mem_replicate⟩

theorem Pass.Invariant.step {s s' : Pass} (holds : s.Invariant pb c) (step : Step pb c s s') :
    s'.Invariant pb c where
  length_workers := length_workers_step holds.length_workers step
  collected := collected_step holds.collected step
  capacity := capacity_step holds.capacity step
  unclosed := unclosed_step holds.unclosed step
  handed := handed_step holds.handed step
  reported := reported_step holds.reported step
  finished := finished_step holds.finished step
  phase := phase_step holds.phase step

theorem Reaches.invariant_holds {trace : Trace} {s : Pass} (reach : Reaches pb c trace s) :
    s.Invariant pb c :=
  Reaches.invariant (Pass.Invariant.start trace) (fun holds step => holds.step step) reach

/-- The send on `errChan` never blocks: a worker sends at most once, and the
buffer holds `concurrency` errors. -/
theorem Pass.Invariant.room {s : Pass} {err : Error} (holds : s.Invariant pb c)
    (mem : .publishing err ∈ s.workers) : s.errChan.length < c.concurrency := by
  have live : 0 < s.workers.countP Worker.live := List.countP_pos_iff.mpr ⟨_, mem, rfl⟩
  have buffered : s.errChan.length ≤ s.published.length := by
    rw [← holds.collected, List.length_append]
    omega
  have capacity := holds.capacity
  omega

/-- Every step only appends to the trace. -/
theorem Step.trace_prefix {s s' : Pass} (step : Step pb c s s') : s.trace <+: s'.trace := by
  cases step with
  | syncFailed | synced | collectFailed | collected => exact List.prefix_append _ _
  | @iterate g _ _ _ =>
    obtain ⟨calls, extends_⟩ := compactGroup_extends pb c g s.trace
    exact ⟨calls, extends_.symm⟩
  | _ => exact List.prefix_refl _

/-- Every iteration of the pass ran `compactGroup` on its group from a trace
of the pass, and its calls extend that trace to a trace of the pass. -/
def Pass.Iterations (pb : PassBackend) (c : BucketCompactor) (trace : Trace) (s : Pass) : Prop :=
  trace <+: s.trace ∧ ∀ result ∈ s.results, ∃ before calls, trace <+: before ∧
    compactGroup pb c result.1 before = (before ++ calls, result.2) ∧ before ++ calls <+: s.trace

theorem iterations_step {trace : Trace} {s s' : Pass} (holds : s.Iterations pb c trace)
    (step : Step pb c s s') : s'.Iterations pb c trace := by
  have grows := step.trace_prefix
  refine ⟨holds.1.trans grows, fun result mem => ?_⟩
  have earlier : result ∈ s.results → ∃ before calls, trace <+: before ∧
      compactGroup pb c result.1 before = (before ++ calls, result.2) ∧ before ++ calls <+: s'.trace :=
    fun old => let ⟨before, calls, start, ran, within⟩ := holds.2 result old
      ⟨before, calls, start, ran, within.trans grows⟩
  cases step with
  | @iterate g _ _ _ =>
    rcases List.mem_append.mp mem with old | new
    · exact earlier old
    · obtain rfl := List.mem_singleton.mp new
      obtain ⟨calls, extends_⟩ := compactGroup_extends pb c g s.trace
      exact ⟨s.trace, calls, holds.1, Prod.ext extends_ rfl, extends_ ▸ List.prefix_refl _⟩
  | _ => exact earlier mem

theorem Reaches.iterations {trace : Trace} {s : Pass} (reach : Reaches pb c trace s) :
    s.Iterations pb c trace :=
  Reaches.invariant ⟨List.prefix_refl _, by simp [Pass.start]⟩ iterations_step reach

/-- The groups sent are always the first sendable groups. -/
theorem Pass.Phase.sent_prefix {sortSlice : SortSlice} {s : Pass} (holds : s.Phase sortSlice) :
    s.sent <+: sendable sortSlice s.groups := by
  unfold Pass.Phase at holds
  revert holds
  cases s.main <;> intro holds <;>
    first | exact holds.1 ▸ List.nil_prefix | exact ⟨_, holds.1⟩ | exact holds.1.1

/-- A pass that ended: the groups were sent, every worker returned, `errChan`
was drained, and the main goroutine decided from the errors and the flag. -/
theorem Pass.Phase.ended {sortSlice : SortSlice} {s : Pass} (holds : s.Phase sortSlice)
    (ended : s.main = .finished ∨ s.main = .rerun ∨ ∃ groupErrs, s.main = .failed groupErrs) :
    s.SentGroups sortSlice ∧ s.Drained ∧ s.main = joined s.groupErrs s.finishedAllGroups := by
  rcases ended with main | main | ⟨_, main⟩ <;> simp only [Pass.Phase, main] at holds <;>
    refine ⟨holds.1, holds.2.1, ?_⟩ <;> rw [main]
  · simp [joined, holds.2.2.1, holds.2.2.2]
  · simp [joined, holds.2.2.1, holds.2.2.2]
  · simp [joined, holds.2.2.1, List.length_pos.mpr holds.2.2.2]

end Invariants

/-! ## A pass over one group

The group of blocks 1 and 2, which `sampleBackend` compacts into block 3, run
by one worker. -/

/-- The group of blocks 1 and 2. -/
def passGroup : Group := sampleGroup [sampleMeta 1 0 10, sampleMeta 2 10 20]

/-- A pass whose sync answers `syncFailure` and whose grouper returns `passGroup`. -/
def samplePassBackend (syncFailure : Option Error) : PassBackend where
  backend := sampleBackend [sampleMeta 3 0 20] []
  syncMetas _ := syncFailure
  garbageCollect _ := none
  metas _ := []
  groups _ := .ok [passGroup]
  repairIssue347 _ _ := none
  markForNoCompact _ _ := none

/-- One worker, out-of-order chunks not skipped. -/
def singleWorker : BucketCompactor := ⟨1, false, Nat.one_pos⟩

/-- The calls of the pass over `passGroup` up to its compaction. -/
def passTrace : Trace :=
  (compactGroup (samplePassBackend none) singleWorker passGroup
    [.syncMetas none, .garbageCollect none]).1

/-- The pass over `passGroup` after the join: the group was compacted, and
its compaction asked for another pass. -/
def passEnd : Pass where
  main := .rerun
  workers := [.exited]
  groupChanClosed := true
  errChan := []
  finishedAllGroups := false
  groupErrs := []
  trace := passTrace
  groups := [passGroup]
  sent := [passGroup]
  results := [(passGroup, .compacted true)]
  published := []

theorem passEnd_reaches : Reaches (samplePassBackend none) singleWorker [] passEnd :=
  .tail (.tail (.tail (.tail (.tail (.tail (.tail (.single (.synced rfl rfl)) (.collected rfl rfl))
    (.grouped rfl rfl)) (.sendGroup rfl rfl (.refl _))) (.iterate (.refl _) rfl)) (.closeGroups rfl))
    (.exit rfl (.refl _))) (.join rfl (by simp))

/-! ## One pass, under every interleaving -/

/-- In every interleaving of a pass, `Group.Compact` runs on the first groups
with more than one block, each at most once.  When the pass ends, it ran on
all of them unless a worker sent an error; every error sent on `errChan` is in
the multi-error the pass returns, once and in the order sent; and a pass
without errors ends the loop exactly when no iteration asked for another pass
or repaired or marked a block. -/
theorem pass_compacts_groups_once_and_collects_errors (pb : PassBackend) (c : BucketCompactor)
    (trace : Trace) (s : Pass) (reach : Reaches pb c trace s) :
    (∃ held, (s.results.map Prod.fst ++ held).Perm s.sent) ∧
    (∀ result ∈ s.results, ∃ before calls, trace <+: before ∧
      compactGroup pb c result.1 before = (before ++ calls, result.2) ∧ before ++ calls <+: s.trace) ∧
    s.sent <+: sendable pb.backend.sortSlice s.groups ∧
    (s.main = .finished ∨ s.main = .rerun ∨ (∃ groupErrs, s.main = .failed groupErrs) →
      (s.results.map Prod.fst).Perm s.sent ∧
      (s.published = [] → s.sent = sendable pb.backend.sortSlice s.groups) ∧
      s.published.Perm (s.results.filterMap (·.2.published)) ∧
      (s.published ≠ [] → s.main = .failed s.published) ∧
      (s.published = [] → (s.main = .finished ↔ ∀ result ∈ s.results,
        result.2 ≠ .compacted true ∧ result.2 ≠ .repaired ∧ result.2 ≠ .markedNoCompact))) := by
  have holds := Reaches.invariant_holds reach
  refine ⟨⟨_, holds.handed⟩, reach.iterations.2, holds.phase.sent_prefix, fun ended => ?_⟩
  obtain ⟨⟨-, all⟩, ⟨-, drained, exited⟩, main⟩ := holds.phase.ended ended
  have idle : ∀ w ∈ s.workers, w.holding = none ∧ w.pending = none := fun w mem => by
    rw [exited w mem]
    exact ⟨rfl, rfl⟩
  have collected := holds.collected
  rw [drained, List.append_nil] at collected
  rw [← collected]
  refine ⟨?_, fun none_sent => all.resolve_right (by simpa using none_sent), ?_, fun some_sent => ?_,
    fun none_sent => ?_⟩
  · simpa [List.filterMap_eq_nil_iff.mpr fun w mem => (idle w mem).1] using holds.handed
  · simpa [← collected, List.filterMap_eq_nil_iff.mpr fun w mem => (idle w mem).2] using holds.reported
  · rw [main, joined, if_pos (List.length_pos.mpr some_sent)]
  · rw [main, none_sent, joined, holds.finished]
    simp [GroupOutcome.rerun_eq_false_iff]

theorem pass_compacts_groups_once_of_one_group :
    Reaches (samplePassBackend none) singleWorker [] passEnd ∧
    (∃ held, (passEnd.results.map Prod.fst ++ held).Perm passEnd.sent) ∧
    (∀ result ∈ passEnd.results, ∃ before calls, [] <+: before ∧
      compactGroup (samplePassBackend none) singleWorker result.1 before = (before ++ calls, result.2) ∧
      before ++ calls <+: passEnd.trace) ∧
    passEnd.sent <+: sendable (samplePassBackend none).backend.sortSlice passEnd.groups ∧
    (passEnd.main = .finished ∨ passEnd.main = .rerun ∨ (∃ groupErrs, passEnd.main = .failed groupErrs) →
      (passEnd.results.map Prod.fst).Perm passEnd.sent ∧
      (passEnd.published = [] →
        passEnd.sent = sendable (samplePassBackend none).backend.sortSlice passEnd.groups) ∧
      passEnd.published.Perm (passEnd.results.filterMap (·.2.published)) ∧
      (passEnd.published ≠ [] → passEnd.main = .failed passEnd.published) ∧
      (passEnd.published = [] → (passEnd.main = .finished ↔ ∀ result ∈ passEnd.results,
        result.2 ≠ .compacted true ∧ result.2 ≠ .repaired ∧ result.2 ≠ .markedNoCompact))) :=
  ⟨passEnd_reaches, pass_compacts_groups_once_and_collects_errors _ _ _ _ passEnd_reaches⟩

/-- Every early return of a pass, after a failed sync, garbage collection or
grouping, leaves all `concurrency` workers blocked on `groupChan`, which was
never closed: no goroutine of the pass can take another step. -/
theorem early_return_leaves_workers_blocked (pb : PassBackend) (c : BucketCompactor) (trace : Trace)
    (s : Pass) (err : Error) (reach : Reaches pb c trace s) (returned : s.main = .returned err) :
    s.workers = List.replicate c.concurrency .receiving ∧ s.groupChanClosed = false ∧
      ∀ s', ¬ Step pb c s s' := by
  have holds := Reaches.invariant_holds reach
  have phase := holds.phase
  simp only [Pass.Phase, returned] at phase
  obtain ⟨-, -, open_, blocked⟩ := phase
  refine ⟨List.eq_replicate_iff.mpr ⟨holds.length_workers, blocked⟩, open_, fun s' step => ?_⟩
  cases step with
  | exit closed => simp [open_] at closed
  | iterate ready | publish ready _ =>
    cases blocked _ (ready.mem_iff.mpr (List.mem_cons_self _ _))
  | _ => simp_all

/-- The pass with one worker whose sync failed, right after `Compact` returned. -/
def syncFailedPass : Pass :=
  { Pass.start singleWorker [] with
    main := .returned (.wrap "sync" (.new "bucket unavailable"))
    trace := [.syncMetas (some (.new "bucket unavailable"))] }

theorem early_return_leaves_workers_blocked_of_failed_sync :
    Reaches (samplePassBackend (some (.new "bucket unavailable"))) singleWorker [] syncFailedPass ∧
    syncFailedPass.main = .returned (.wrap "sync" (.new "bucket unavailable")) ∧
    syncFailedPass.workers = List.replicate singleWorker.concurrency .receiving ∧
    syncFailedPass.groupChanClosed = false ∧
    ∀ s', ¬ Step (samplePassBackend (some (.new "bucket unavailable"))) singleWorker syncFailedPass s' :=
  ⟨.single (.syncFailed rfl rfl), rfl,
    early_return_leaves_workers_blocked _ _ _ _ _ (.single (.syncFailed rfl rfl)) rfl⟩

/-! ## Every pass ends

No interleaving of a pass runs forever: every step lowers `Pass.rank`, which
counts what the main goroutine has left before and after the grouping, and
what each worker has left.  A state where no goroutine can move has ended, has
a panicked worker, or has a worker blocked in the download fan-out of a group
whose fetch concurrency is zero: the loop always finds a worker to take a
group or an error to receive, and `errChan` always has room for a worker's
error. -/

/-- Whether `Compact` returned, or the pass decided how the loop goes on. -/
def Main.ended : Main → Bool
  | .returned _ | .failed _ | .finished | .rerun => true
  | _ => false

/-- The steps of the main goroutine before the groups are built. -/
def Main.stage : Main → Nat
  | .syncMetas => 3
  | .garbageCollect => 2
  | .buildGroups => 1
  | _ => 0

/-- What the main goroutine has left once the groups are built: two for each
group, one of which pays for the iteration of the worker it hands it to. -/
def Main.remaining : Main → Nat
  | .sendGroups rest => 2 * rest.length + 2
  | .waitWorkers => 1
  | _ => 0

/-- The steps a worker has left before it returns. -/
def Worker.remaining : Worker → Nat
  | .compacting _ => 3
  | .receiving => 2
  | .publishing _ => 1
  | .exited | .panicked => 0

/-- What a pass has left, ordered lexicographically. -/
def Pass.rank (s : Pass) : Nat × Nat :=
  (s.main.stage, s.main.remaining + (s.workers.map Worker.remaining).sum)

@[simp]
theorem GroupOutcome.remaining_next (outcome : GroupOutcome) : outcome.next.remaining < 3 := by
  cases outcome <;> simp [GroupOutcome.next, Worker.remaining]

@[simp]
theorem joined_ended (groupErrs : List Error) (finishedAllGroups : Bool) :
    (joined groupErrs finishedAllGroups).ended = true ∧
      (joined groupErrs finishedAllGroups).stage = 0 ∧
      (joined groupErrs finishedAllGroups).remaining = 0 := by
  unfold joined
  split_ifs <;> exact ⟨rfl, rfl, rfl⟩

theorem perm_cons_of_mem {w : Worker} {workers : List Worker} (mem : w ∈ workers) :
    ∃ others, workers.Perm (w :: others) := by
  obtain ⟨front, back, rfl⟩ := List.append_of_mem mem
  exact ⟨_, List.perm_middle⟩

section Termination

variable {pb : PassBackend} {c : BucketCompactor}

/-- Every step lowers the rank of the pass. -/
theorem rank_step {s s' : Pass} (step : Step pb c s s') :
    Prod.Lex (· < ·) (· < ·) s'.rank s.rank := by
  rw [Prod.lex_def]
  cases step with
  | syncFailed main | synced main | collectFailed main | collected main | groupingFailed main
  | grouped main =>
    left
    simp [Pass.rank, main, Main.stage]
  | skipGroup main | receiveError main | closeGroups main =>
    right
    simp [Pass.rank, main, Main.stage, Main.remaining]
  | join main =>
    right
    simp only [Pass.rank, main, joined_ended]
    simp [Main.stage, Main.remaining]
  | sendGroup main _ ready =>
    right
    simp only [Pass.rank, main, (ready.map Worker.remaining).sum_eq]
    simp [Main.stage, Main.remaining, Worker.remaining]
    omega
  | exit _ ready | publish ready =>
    right
    simp only [Pass.rank, (ready.map Worker.remaining).sum_eq, List.map_cons, List.sum_cons]
    simp [Worker.remaining]
  | @iterate g _ ready =>
    right
    simp only [Pass.rank, (ready.map Worker.remaining).sum_eq, List.map_cons, List.sum_cons]
    have lower := GroupOutcome.remaining_next (compactGroup pb c g s.trace).2
    have compacting : (Worker.compacting g).remaining = 3 := rfl
    exact ⟨trivial, by omega⟩

/-- No interleaving of a pass runs forever. -/
theorem step_wellFounded : WellFounded fun s' s => Step pb c s s' :=
  Subrelation.wf rank_step (InvImage.wf Pass.rank (WellFounded.prod_lex wellFounded_lt wellFounded_lt))

/-- A worker in an iteration, or about to send its error, can always move. -/
theorem Pass.Invariant.busy_step {s : Pass} {w : Worker} (holds : s.Invariant pb c)
    (mem : w ∈ s.workers) (receiving : w ≠ .receiving) (exited : w ≠ .exited)
    (panicked : w ≠ .panicked)
    (unblocked : ∀ g, w = .compacting g → Group.CompactBlocks pb.backend g s.trace = false) :
    ∃ s', Step pb c s s' := by
  obtain ⟨others, ready⟩ := perm_cons_of_mem mem
  cases w with
  | compacting g => exact ⟨_, .iterate ready (unblocked g rfl)⟩
  | publishing err => exact ⟨_, .publish ready (holds.room mem)⟩
  | receiving => exact (receiving rfl).elim
  | exited => exact (exited rfl).elim
  | panicked => exact (panicked rfl).elim

/-- No deadlock: in every reachable state of a pass that has not ended, where
no worker panicked and none is blocked in the download fan-out, some goroutine
can take a step. -/
theorem pass_progress {trace : Trace} {s : Pass} (reach : Reaches pb c trace s)
    (running : s.main.ended = false) (unpanicked : .panicked ∉ s.workers)
    (unblocked : ∀ g, .compacting g ∈ s.workers → Group.CompactBlocks pb.backend g s.trace = false) :
    ∃ s', Step pb c s s' := by
  have holds := reach.invariant_holds
  have busy : ∀ w ∈ s.workers, w ≠ .receiving → w ≠ .exited → ∃ s', Step pb c s s' :=
    fun w mem receiving exited =>
      holds.busy_step mem receiving exited (fun panicked => unpanicked (panicked ▸ mem))
        fun g same => unblocked g (same ▸ mem)
  have phase := holds.phase
  cases main : s.main with
  | syncMetas =>
    cases synced : pb.syncMetas s.trace
    exacts [⟨_, .synced main synced⟩, ⟨_, .syncFailed main synced⟩]
  | garbageCollect =>
    cases collected : pb.garbageCollect s.trace
    exacts [⟨_, .collected main collected⟩, ⟨_, .collectFailed main collected⟩]
  | buildGroups =>
    cases grouped : pb.groups (pb.metas s.trace)
    exacts [⟨_, .groupingFailed main grouped⟩, ⟨_, .grouped main grouped⟩]
  | sendGroups rest =>
    cases rest with
    | nil => exact ⟨_, .closeGroups main⟩
    | cons g rest =>
      cases single : singleBlock pb.backend.sortSlice g
      case true => exact ⟨_, .skipGroup main single⟩
      cases buffered : s.errChan with
      | cons err pending => exact ⟨_, .receiveError main single buffered⟩
      | nil =>
        -- Nothing was sent on `errChan`, so every worker is live.
        simp only [Pass.Phase, main] at phase
        have live := holds.unclosed phase.2.1
        rw [← holds.collected, phase.2.2, buffered, List.nil_append, List.length_nil, zero_add,
          ← holds.length_workers] at live
        obtain ⟨w, mem⟩ := List.exists_mem_of_length_pos (holds.length_workers ▸ c.concurrency_pos)
        obtain ⟨others, ready⟩ := perm_cons_of_mem mem
        cases w with
        | receiving => exact ⟨_, .sendGroup main single ready⟩
        | exited => cases List.countP_eq_length.mp live _ mem
        | _ => exact busy _ mem nofun nofun
  | waitWorkers =>
    by_cases exited : ∀ w ∈ s.workers, w = .exited
    · exact ⟨_, .join main exited⟩
    push_neg at exited
    obtain ⟨w, mem, moving⟩ := exited
    simp only [Pass.Phase, main] at phase
    obtain ⟨others, ready⟩ := perm_cons_of_mem mem
    cases w with
    | receiving => exact ⟨_, .exit phase.2 ready⟩
    | exited => exact (moving rfl).elim
    | _ => exact busy _ mem nofun nofun
  | returned | failed | finished | rerun => simp [Main.ended, main] at running

end Termination

/-- A run that blocks in the fan-out has a fetch concurrency of zero. -/
theorem fetchConcurrency_of_compactBlocks {backend : Backend} {g : Group} {trace : Trace}
    (blocks : Group.CompactBlocks backend g trace = true) : g.compactBlocksFetchConcurrency = 0 := by
  simp only [Group.CompactBlocks, goBlocks, Bool.and_eq_true, beq_iff_eq] at blocks
  exact blocks.1

/-- Every pass ends, or stops for good: along an interleaving that takes a
step whenever some goroutine can, after finitely many steps `Compact` has
returned or the pass has decided how the loop goes on, or a worker has
panicked, or a worker is blocked forever in the download fan-out of a group
whose fetch concurrency is zero. -/
theorem pass_ends (pb : PassBackend) (c : BucketCompactor) (trace : Trace) (run : ℕ → Pass)
    (start : run 0 = Pass.start c trace)
    (steps : ∀ k, (∃ s', Step pb c (run k) s') → Step pb c (run k) (run (k + 1))) :
    ∃ k, Reaches pb c trace (run k) ∧
      ((run k).main.ended = true ∨ .panicked ∈ (run k).workers ∨
        ∃ g, .compacting g ∈ (run k).workers ∧ g.compactBlocksFetchConcurrency = 0 ∧
          Group.CompactBlocks pb.backend g (run k).trace = true) := by
  obtain ⟨k, stuckAt, reached⟩ := maximal_run_stops step_wellFounded run steps
  rw [start] at reached
  refine ⟨k, reached, ?_⟩
  by_contra running
  rw [not_or, not_or, Bool.not_eq_true] at running
  obtain ⟨ended, unpanicked, unblocked⟩ := running
  exact stuckAt (pass_progress reached ended unpanicked fun g mem =>
    Bool.eq_false_iff.mpr fun blocks => unblocked ⟨g, mem, fetchConcurrency_of_compactBlocks blocks, blocks⟩)

/-- `passGroup` with a fetch concurrency of zero: `g.SetLimit(0)`. -/
def unfetchedGroup : Group := { passGroup with compactBlocksFetchConcurrency := 0 }

/-- The pass whose grouper returns `unfetchedGroup`. -/
def unfetchedPassBackend : PassBackend := { samplePassBackend none with groups := fun _ => .ok [unfetchedGroup] }

/-- The pass over `unfetchedGroup` after `close(groupChan)`: the main goroutine
waits for a worker that is blocked in the download fan-out. -/
def unfetchedPass : Pass where
  main := .waitWorkers
  workers := [.compacting unfetchedGroup]
  groupChanClosed := true
  errChan := []
  finishedAllGroups := true
  groupErrs := []
  trace := [.syncMetas none, .garbageCollect none]
  groups := [unfetchedGroup]
  sent := [unfetchedGroup]
  results := []
  published := []

/-- No goroutine of `unfetchedPass` can move: the worker's `g.Go` blocks, and
`wg.Wait()` waits for it. -/
theorem unfetchedPass_stuck (s' : Pass) : ¬ Step unfetchedPassBackend singleWorker unfetchedPass s' := by
  intro step
  cases step with
  | join _ exited => cases exited _ (List.mem_singleton_self _)
  | exit _ ready | publish ready => cases ready.mem_iff.mpr (List.mem_cons_self _ _) with
    | tail _ mem => cases mem
  | iterate holding returns =>
    obtain rfl : _ = unfetchedGroup := by
      simpa [unfetchedPass] using holding.mem_iff.mpr (List.mem_cons_self _ _)
    exact absurd returns (by decide)
  | _ => simp_all [unfetchedPass]

/-- The interleaving of the pass over `unfetchedGroup`: the syncer, the
grouping, the send of the group and `close(groupChan)`, and nothing after. -/
def unfetchedRun : ℕ → Pass
  | 0 => Pass.start singleWorker []
  | 1 =>
    { Pass.start singleWorker [] with
      main := .garbageCollect
      trace := [.syncMetas none] }
  | 2 =>
    { Pass.start singleWorker [] with
      main := .buildGroups
      trace := [.syncMetas none, .garbageCollect none] }
  | 3 =>
    { Pass.start singleWorker [] with
      main := .sendGroups [unfetchedGroup]
      trace := [.syncMetas none, .garbageCollect none]
      groups := [unfetchedGroup] }
  | 4 =>
    { unfetchedPass with
      main := .sendGroups []
      groupChanClosed := false }
  | _ + 5 => unfetchedPass

/-- The pass over `unfetchedGroup` never ends: once the group is sent and
`groupChan` closed, no goroutine moves, and the worker is blocked in the
fan-out of a group whose fetch concurrency is zero. -/
theorem pass_ends_of_unfetched_group :
    unfetchedRun 0 = Pass.start singleWorker [] ∧
    (∀ k, (∃ s', Step unfetchedPassBackend singleWorker (unfetchedRun k) s') →
      Step unfetchedPassBackend singleWorker (unfetchedRun k) (unfetchedRun (k + 1))) ∧
    (∀ k, 5 ≤ k → unfetchedRun k = unfetchedPass ∧ unfetchedPass.main.ended = false ∧
      ∀ s', ¬ Step unfetchedPassBackend singleWorker unfetchedPass s') ∧
    ∃ k, Reaches unfetchedPassBackend singleWorker [] (unfetchedRun k) ∧
      ((unfetchedRun k).main.ended = true ∨ .panicked ∈ (unfetchedRun k).workers ∨
        ∃ g, .compacting g ∈ (unfetchedRun k).workers ∧ g.compactBlocksFetchConcurrency = 0 ∧
          Group.CompactBlocks unfetchedPassBackend.backend g (unfetchedRun k).trace = true) :=
  have ended : ∀ k, 5 ≤ k → unfetchedRun k = unfetchedPass ∧ unfetchedPass.main.ended = false ∧
      ∀ s', ¬ Step unfetchedPassBackend singleWorker unfetchedPass s' := fun k late => by
    refine ⟨?_, rfl, unfetchedPass_stuck⟩
    match k, late with
    | _ + 5, _ => rfl
  have steps : ∀ k, (∃ s', Step unfetchedPassBackend singleWorker (unfetchedRun k) s') →
      Step unfetchedPassBackend singleWorker (unfetchedRun k) (unfetchedRun (k + 1))
    | 0, _ => .synced rfl rfl
    | 1, _ => .collected rfl rfl
    | 2, _ => .grouped rfl rfl
    | 3, _ => .sendGroup rfl rfl (.refl _)
    | 4, _ => .closeGroups rfl
    | k + 5, ⟨s', step⟩ => (unfetchedPass_stuck s' ((ended (k + 5) (by omega)).1 ▸ step)).elim
  ⟨rfl, steps, ended, pass_ends _ _ _ unfetchedRun rfl steps⟩

/-! ## How the errors of a group are classified -/

/-- The errors of `Group.Compact` and of the worker, by the collaborator call
that failed.  A failed download (in the goroutine whose error `g.Wait()`
returns), upload or post-compaction callback ends the run with a retry error;
a failed planner call ends it with the planner's error wrapped once; a run
that fails after a failed deletion mark returns a retry error, or the error
of a panic recovered later in the run; and when the first goroutine to fail
found out-of-order chunks and skipping is off, the run ends with that block's
`OutOfOrderChunksError`, which the worker publishes wrapped once, not as a
retry error.  No collaborator can panic after the other failures: the run
returns right after them, or only the fan-out's goroutines go on. -/
theorem compact_error_classes (pb : PassBackend) (c : BucketCompactor) (cg : Group) (trace : Trace) :
    (∀ added metas cause, (Group.Compact pb.backend cg trace).1 = trace ++ added →
      .plan metas (.error cause) ∈ added →
      (Group.Compact pb.backend cg trace).2 = .error (.wrap "plan compaction" cause)) ∧
    (∀ before id cause after, isHaltError cause = false →
      (Group.Compact pb.backend cg trace).1 = trace ++ before ++ .download id (some cause) :: after →
      (∀ ev ∈ before, ∀ err, ¬ FailsWith cg ev err) →
      (∀ populated, .getBlockPopulator populated ∉ before) →
      ∃ err, (Group.Compact pb.backend cg trace).2 = .error err ∧
        isRetryError err = true ∧ isHaltError err = false) ∧
    (∀ added compID cause, isHaltError cause = false →
      (Group.Compact pb.backend cg trace).1 = trace ++ added →
      .upload compID (some cause) ∈ added ∨ .postCompactionCallback compID (some cause) ∈ added →
      ∃ err, (Group.Compact pb.backend cg trace).2 = .error err ∧
        isRetryError err = true ∧ isHaltError err = false) ∧
    (∀ added id details cause err, isHaltError cause = false →
      Group.Compact pb.backend cg trace = (trace ++ added, .error err) →
      .markForDeletion id details (some cause) ∈ added →
      (isRetryError err = true ∧ isHaltError err = false) ∨
        ∃ p, err = panickedWhileCompacting (cg.ids pb.backend.sortSlice) p) ∧
    (∀ before id stats cause after, c.skipBlocksWithOutOfOrderChunks = false →
      stats.criticalErr = none → stats.outOfOrderChunksErr = some cause →
      (Group.Compact pb.backend cg trace).1 =
        trace ++ before ++ .gatherIndexHealthStats id (.ok stats) :: after →
      (∀ ev ∈ before, ∀ err, ¬ FailsWith cg ev err) →
      (∀ populated, .getBlockPopulator populated ∉ before) →
      ∃ err, (Group.Compact pb.backend cg trace).2 = .error err ∧
        err = outOfOrderChunkError
          (.wrap s!"blocks with out-of-order chunks are dropped from compaction:  {id}" cause) id ∧
        isOutOfOrderChunkError err = true ∧
        (compactGroup pb c cg trace).2 = .failed (.wrap s!"group {cg.key}" err) ∧
        isRetryError (.wrap s!"group {cg.key}" err) = false) := by
  refine ⟨fun added metas cause ran failed => ?_, fun before id cause after notHalt ran clean unmerged => ?_,
    fun added compID cause notHalt ran failed => ?_, fun added id details cause err notHalt ran failed => ?_,
    fun before id stats cause after unskipped healthy chunks ran clean unmerged => ?_⟩
  · obtain ⟨_, ran', failed', result⟩ := Compact_inner_of_ending pb.backend cg ran failed (.plan _ _)
    rw [result, compact_of_failed_plan pb.backend cg ran' failed']
  · obtain ⟨_, result, rfl⟩ := Compact_of_first_failure pb.backend cg ran clean unmerged rfl
    exact ⟨_, result, retry_classified (by simpa using notHalt)⟩
  · rcases failed with failed | failed
    · obtain ⟨_, ran', failed', result⟩ := Compact_inner_of_ending pb.backend cg ran failed (.upload _ _)
      exact ⟨_, result.trans ((compact_of_failed_publication pb.backend cg ran').1 failed'),
        retry_classified (by simpa using notHalt)⟩
    · obtain ⟨_, ran', failed', result⟩ :=
        Compact_inner_of_ending pb.backend cg ran failed (.postCompactionCallback _ _)
      exact ⟨_, result.trans ((compact_of_failed_publication pb.backend cg ran').2 failed'),
        retry_classified (by simpa using notHalt)⟩
  · obtain ⟨inner, rest, ran', result⟩ :=
      Compact_inner pb.backend cg (congrArg Prod.fst ran) failed nofun nofun
    rw [ran] at result
    rcases result with same | ⟨-, p, recovered⟩
    · have compacted : Group.compact pb.backend cg (trace ++ [.mkdirAll none]) =
          ((trace ++ [.mkdirAll none]) ++ (inner ++ .markForDeletion id details (some cause) :: rest),
            .error err) := Prod.ext (by rw [ran']; simp) same.symm
      rw [@compact_of_failed_mark pb.backend cg _ _ id details cause err compacted (by simp)]
      exact .inl (retry_classified (by simpa using notHalt))
    · exact .inr ⟨p, Except.error.inj recovered⟩
  · obtain ⟨err, result, fails⟩ := Compact_of_first_failure pb.backend cg ran clean unmerged
      ((failsWith_outOfOrderChunks healthy chunks).mpr rfl)
    rw [failsWith_outOfOrderChunks healthy chunks] at fails
    subst fails
    refine ⟨_, result, rfl, rfl, ?_, rfl⟩
    simp [compactGroup, result, handleGroupError, skipOutOfOrderChunks, unskipped]

/-- The collaborators of `passGroup` with a planner that fails. -/
def unplannedBackend : Backend :=
  { sampleBackend [] [] with planner := ⟨fun _ _ => .error (.new "bucket unavailable")⟩ }

/-- The pass over `passGroup` where the index of block 1 has out-of-order chunks. -/
def outOfOrderPassBackend : PassBackend :=
  { samplePassBackend none with
    backend :=
      { sampleBackend [sampleMeta 3 0 20] [] with
        io :=
          { (sampleBackend [sampleMeta 3 0 20] []).io with
            gatherIndexHealthStats := fun _ id _ _ =>
              .ok ⟨none, if id = 1 then some (.new "out-of-order chunks") else none, none, none, none⟩ } } }

/-- A failing planner makes `Group.Compact` return its error wrapped once,
which is not a retry error; and with skipping off, the worker publishes the
out-of-order-chunks error of block 1 wrapped once, which is not a retry error
either. -/
theorem compact_planner_and_out_of_order_errors_not_retried :
    let planned := Group.Compact unplannedBackend passGroup []
    let published := compactGroup outOfOrderPassBackend singleWorker passGroup []
    planned.2 = .error (.wrap "plan compaction" (.new "bucket unavailable")) ∧
    isRetryError (.wrap "plan compaction" (.new "bucket unavailable")) = false ∧
    published.2 = .failed (.wrap "group 0@{}" (outOfOrderChunkError
      (.wrap "blocks with out-of-order chunks are dropped from compaction:  1"
        (.new "out-of-order chunks")) 1)) ∧
    isRetryError (.wrap "group 0@{}" (outOfOrderChunkError
      (.wrap "blocks with out-of-order chunks are dropped from compaction:  1"
        (.new "out-of-order chunks")) 1)) = false := by
  decide

/-- The pass over `passGroup` where the download of block 1 fails. -/
def failedDownloadPassBackend : PassBackend :=
  { samplePassBackend none with
    backend :=
      { sampleBackend [sampleMeta 3 0 20] [] with
        io :=
          { (sampleBackend [sampleMeta 3 0 20] []).io with
            download := fun _ id => if id = 1 then some (.new "bucket unavailable") else none } } }

/-- The calls of a run on `passGroup` before its download fan-out. -/
def passGroupPlanned : Trace :=
  [.mkdirAll none, .plan passGroup.metasByMinTime (.ok passGroup.metasByMinTime),
    .preCompactionCallback passGroup.metasByMinTime none]

/-- The failed download of block 1 is the first failure of its fan-out, and
`Group.Compact` returns a retry error; with skipping off, the out-of-order
chunks of block 1 make `Group.Compact` return that block's
`OutOfOrderChunksError`, which the worker publishes wrapped once. -/
theorem compact_error_classes_of_failed_download :
    (∃ err, (Group.Compact failedDownloadPassBackend.backend passGroup []).2 = .error err ∧
      isRetryError err = true ∧ isHaltError err = false) ∧
    ∃ err, (Group.Compact outOfOrderPassBackend.backend passGroup []).2 = .error err ∧
      err = outOfOrderChunkError
        (.wrap s!"blocks with out-of-order chunks are dropped from compaction:  {1}"
          (.new "out-of-order chunks")) 1 ∧
      isOutOfOrderChunkError err = true ∧
      (compactGroup outOfOrderPassBackend singleWorker passGroup []).2 =
        .failed (.wrap s!"group {passGroup.key}" err) ∧
      isRetryError (.wrap s!"group {passGroup.key}" err) = false :=
  have quiet : ∀ ev ∈ passGroupPlanned, ∀ err, ¬ FailsWith passGroup ev err := by
    simp [passGroupPlanned, FailsWith]
  have unmerged : ∀ populated, .getBlockPopulator populated ∉ passGroupPlanned := by
    simp [passGroupPlanned]
  ⟨(compact_error_classes failedDownloadPassBackend singleWorker passGroup []).2.1 passGroupPlanned 1
      (.new "bucket unavailable") ((Group.Compact failedDownloadPassBackend.backend passGroup []).1.drop 4)
      rfl (by decide) quiet unmerged,
    (compact_error_classes outOfOrderPassBackend singleWorker passGroup []).2.2.2.2
      (passGroupPlanned ++ [.download 1 none]) 1 ⟨none, some (.new "out-of-order chunks"), none, none, none⟩
      (.new "out-of-order chunks") ((Group.Compact outOfOrderPassBackend.backend passGroup []).1.drop 5)
      rfl rfl rfl (by decide) (by simp [passGroupPlanned, FailsWith]) (by simp [passGroupPlanned])⟩

end Thanos.Compact.CompactionPasses
