import Thanos.Compact.Collaborators
import Thanos.Compact.Grouper

/-!
# The syncer

A `Syncer` keeps the block metas and the partial blocks of the last
synchronization with the bucket.  `SyncMetas` replaces both with what the
fetcher returns.  `GarbageCollect` marks for deletion the blocks that the
deduplicate filter reported as duplicates, skipping those the deletion-mark
filter reported as marked already, and deletes each block from the snapshot
once its marker is written, so that the next grouping does not see it.

The fetcher, the two filters, the context and `block.MarkForDeletion` are
oracles, functions of the calls made so far, as for a group compaction.  A Go
map is an association list, and a deletion-mark map its keys.  The mutex, the
metrics and the logs are left out, and `singleflight` has a single caller.
-/

namespace Thanos.Compact.MetaSyncer

open Thanos.Compact.Primitives
open Thanos.Compact.Errors
open Thanos.Compact.Metadata
open Thanos.Compact.CompactionGroup
open Thanos.Compact.Collaborators
open Thanos.Compact.Grouper

/-- The snapshot of a `Syncer`: `blocks`, and `partial` under another name. -/
structure Syncer where
  blocks : List (Ulid × Meta)
  partialBlocks : List (Ulid × Error)
deriving DecidableEq

/-- What a `Syncer` runs against. -/
structure SyncerBackend where
  /-- `fetcher.Fetch`: the metas and the partial blocks, or an error. -/
  fetch : Trace → Except Error (List (Ulid × Meta) × List (Ulid × Error))
  /-- The keys of `ignoreDeletionMarkFilter.DeletionMarkBlocks()`. -/
  deletionMarkBlocks : Trace → List Ulid
  /-- `duplicateBlocksFilter.DuplicateIDs()`. -/
  duplicateIDs : Trace → List Ulid
  /-- `ctx.Err()`. -/
  ctxErr : Trace → Option Error
  /-- `block.MarkForDeletion` of a block with a reason. -/
  markForDeletion : Trace → Ulid → String → Option Error

section Sync

variable (backend : SyncerBackend)

/-- `Syncer.SyncMetas`: the snapshot after the call, the calls, and the error. -/
def Syncer.syncMetas (s : Syncer) (trace : Trace) : Syncer × Trace × Option Error :=
  match backend.fetch trace with
  | .error err => (s, trace ++ [.syncMetas (some (retry err))], some (retry err))
  | .ok (metas, partialBlocks) => (⟨metas, partialBlocks⟩, trace ++ [.syncMetas none], none)

/-- The duplicates not marked for deletion yet, in the order of `DuplicateIDs`. -/
def garbageIDs (duplicateIDs deletionMarkMap : List Ulid) : List Ulid :=
  duplicateIDs.filter fun id => id ∉ deletionMarkMap

/-- The loop of `GarbageCollect` over the garbage IDs: it stops at a cancelled
context and at the first marker that could not be written. -/
def Syncer.markGarbage : Syncer → Trace → List Ulid → Syncer × Trace × Option Error
  | s, trace, [] => (s, trace, none)
  | s, trace, id :: rest =>
    match backend.ctxErr trace with
    | some err => (s, trace, some err)
    | none =>
      let marked := backend.markForDeletion trace id "outdated block"
      let trace := trace ++ [.markForDeletion id "outdated block" marked]
      match marked with
      | some err => (s, trace, some (retry (.wrap s!"mark block {id} for deletion" err)))
      | none => Syncer.markGarbage { s with blocks := s.blocks.filter (·.1 ≠ id) } trace rest

/-- `Syncer.GarbageCollect`. -/
def Syncer.garbageCollect (s : Syncer) (trace : Trace) : Syncer × Trace × Option Error :=
  Syncer.markGarbage backend s trace
    (garbageIDs (backend.duplicateIDs trace) (backend.deletionMarkBlocks trace))

/-- The blocks whose deletion marker a list of calls wrote. -/
def markedBlocks (calls : Trace) : List Ulid :=
  calls.filterMap fun
    | .markForDeletion id _ none => some id
    | _ => none

@[simp]
theorem markedBlocks_nil : markedBlocks [] = [] := rfl

@[simp]
theorem markedBlocks_cons_marked (id : Ulid) (details : String) (calls : Trace) :
    markedBlocks (.markForDeletion id details none :: calls) = id :: markedBlocks calls := rfl

@[simp]
theorem markedBlocks_cons_failed (id : Ulid) (details : String) (err : Error) (calls : Trace) :
    markedBlocks (.markForDeletion id details (some err) :: calls) = markedBlocks calls := rfl

/-- A failed sync leaves the snapshot as it was and returns the fetch error
through `retry`. -/
theorem syncMetas_of_error {s : Syncer} {trace : Trace} {err : Error}
    (failed : backend.fetch trace = .error err) :
    (s.syncMetas backend trace).1 = s ∧ (s.syncMetas backend trace).2.2 = some (retry err) := by
  simp [Syncer.syncMetas, failed]

/-- The loop marks a prefix of the garbage IDs and deletes exactly those from
the snapshot; when its calls end with a failed marker write, it returns that
failure through `retry`. -/
theorem markGarbage_spec (s : Syncer) (trace : Trace) (ids : List Ulid) :
    ∃ marked calls, marked.IsPrefix ids ∧
      (s.markGarbage backend trace ids).2.1 = trace ++ calls ∧
      markedBlocks calls = marked ∧
      (s.markGarbage backend trace ids).1 =
        { s with blocks := s.blocks.filter fun entry => entry.1 ∉ marked } ∧
      ∀ front id cause, calls = front ++ [.markForDeletion id "outdated block" (some cause)] →
        (s.markGarbage backend trace ids).2.2 =
          some (retry (.wrap s!"mark block {id} for deletion" cause)) := by
  induction ids generalizing s trace with
  | nil => exact ⟨[], [], List.nil_prefix, by simp [Syncer.markGarbage], rfl,
      by simp [Syncer.markGarbage], by simp⟩
  | cons id rest induction =>
    rcases cancelled : backend.ctxErr trace with _ | err
    · rcases written : backend.markForDeletion trace id "outdated block" with _ | cause
      · obtain ⟨marked, calls, prefix_, extends_, counted, snapshot, failure⟩ :=
          induction { s with blocks := s.blocks.filter (·.1 ≠ id) }
            (trace ++ [.markForDeletion id "outdated block" none])
        simp only [Syncer.markGarbage, cancelled, written] at extends_ snapshot failure ⊢
        refine ⟨id :: marked, .markForDeletion id "outdated block" none :: calls,
          (List.prefix_cons_inj id).mpr prefix_, by rw [extends_, List.append_assoc, List.singleton_append],
          by simp [counted], ?_, ?_⟩
        · rw [snapshot, List.filter_filter]
          congr 2
          funext entry
          by_cases same : entry.1 = id <;> simp [same]
        · intro front failedId failedCause ended
          cases front with
          | nil => simp at ended
          | cons first front =>
            obtain ⟨-, ended⟩ := List.cons.inj ended
            exact failure front failedId failedCause ended
      · refine ⟨[], [.markForDeletion id "outdated block" (some cause)], List.nil_prefix,
          by simp [Syncer.markGarbage, cancelled, written], rfl,
          by simp [Syncer.markGarbage, cancelled, written], ?_⟩
        intro front failedId failedCause ended
        cases front with
        | nil =>
          simp only [List.nil_append, List.cons.injEq, Event.markForDeletion.injEq,
            Option.some.injEq, and_true, true_and] at ended
          obtain ⟨rfl, rfl⟩ := ended
          simp [Syncer.markGarbage, cancelled, written]
        | cons _ front => simp at ended
    · exact ⟨[], [], List.nil_prefix, by simp [Syncer.markGarbage, cancelled], rfl,
        by simp [Syncer.markGarbage, cancelled], by simp⟩

end Sync

/-- For every snapshot whose entries are keyed by their block's ULID, as the
fetcher keys them: whatever the filters report and whichever marker writes
fail or the context cancels, the groups that `DefaultGrouper.Groups` builds
from the snapshot after `GarbageCollect`, in any iteration order of the map,
hold exactly the blocks of the snapshot whose deletion marker the collection
did not write. -/
theorem groups_after_garbage_collect_skip_marked_blocks (backend : SyncerBackend)
    (grouper : DefaultGrouper) (sortSlice : SortSlice) (groupKey : Thanos → String) (s : Syncer)
    (trace : Trace) (keyed : ∀ entry ∈ s.blocks, entry.2.ulid = entry.1) {metas : List Meta}
    {res : List Group} (values : metas.Perm ((s.garbageCollect backend trace).1.blocks.map (·.2)))
    (returned : grouper.groups sortSlice groupKey metas = .ok res) :
    ∃ calls, (s.garbageCollect backend trace).2.1 = trace ++ calls ∧
      ∀ meta, (∃ group ∈ res, meta ∈ group.metasByMinTime) ↔
        meta ∈ s.blocks.map (·.2) ∧ meta.ulid ∉ markedBlocks calls := by
  obtain ⟨marked, calls, -, extends_, counted, snapshot, -⟩ := markGarbage_spec backend s trace
    (garbageIDs (backend.duplicateIDs trace) (backend.deletionMarkBlocks trace))
  rw [Syncer.garbageCollect, snapshot] at values
  have members := ((groups_eq_ok sortSlice groupKey grouper returned).1.flatMap_perm groupKey).trans values
  refine ⟨calls, extends_, fun meta => ?_⟩
  rw [← List.mem_flatMap, members.mem_iff, counted]
  simp only [List.mem_map, List.mem_filter, decide_eq_true_eq]
  constructor
  · rintro ⟨entry, ⟨mem, unmarked⟩, rfl⟩
    exact ⟨⟨entry, mem, rfl⟩, keyed entry mem ▸ unmarked⟩
  · rintro ⟨⟨entry, mem, rfl⟩, unmarked⟩
    exact ⟨entry, ⟨mem, keyed entry mem ▸ unmarked⟩, rfl⟩

/-- Blocks 1 and 2 of one key, where block 1 is a duplicate that no deletion
marker names yet. -/
def duplicateBackend : SyncerBackend where
  fetch _ := .ok ([], [])
  deletionMarkBlocks _ := []
  duplicateIDs _ := [1]
  ctxErr _ := none
  markForDeletion _ _ _ := none

/-- The snapshot of blocks 1 and 2. -/
def duplicateSnapshot : Syncer :=
  ⟨[(1, ⟨⟨1, Int64.ofInt 0, Int64.ofInt 1, 1, 1, [1]⟩, ⟨[], Int64.ofInt 0⟩⟩),
    (2, ⟨⟨2, Int64.ofInt 0, Int64.ofInt 2, 2, 2, [1, 3]⟩, ⟨[], Int64.ofInt 0⟩⟩)], []⟩

theorem groups_after_garbage_collect_skip_marked_blocks_of_duplicate :
    (∀ entry ∈ duplicateSnapshot.blocks, entry.2.ulid = entry.1) ∧
    ((duplicateSnapshot.garbageCollect duplicateBackend []).1.blocks.map (·.2)).Perm
      ((duplicateSnapshot.garbageCollect duplicateBackend []).1.blocks.map (·.2)) ∧
    ∃ res, (⟨false, false, 1, 1⟩ : DefaultGrouper).groups insertionSortSlice (fun _ => "0@group")
        ((duplicateSnapshot.garbageCollect duplicateBackend []).1.blocks.map (·.2)) = .ok res ∧
      ∃ calls, (duplicateSnapshot.garbageCollect duplicateBackend []).2.1 = [] ++ calls ∧
        ∀ meta, (∃ group ∈ res, meta ∈ group.metasByMinTime) ↔
          meta ∈ duplicateSnapshot.blocks.map (·.2) ∧ meta.ulid ∉ markedBlocks calls :=
  have keyed : ∀ entry ∈ duplicateSnapshot.blocks, entry.2.ulid = entry.1 := by decide
  ⟨keyed, .refl _, _, rfl, groups_after_garbage_collect_skip_marked_blocks duplicateBackend
    ⟨false, false, 1, 1⟩ insertionSortSlice (fun _ => "0@group") duplicateSnapshot [] keyed (.refl _) rfl⟩

end Thanos.Compact.MetaSyncer
