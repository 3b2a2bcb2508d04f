import Mathlib.Order.Bounds.Basic
import Thanos.Compact.Errors
import Thanos.Compact.Metadata

/-!
# Compaction groups

A `Group` holds the blocks of one external label set and one downsample
resolution, in `metasByMinTime`.  It is built by `NewGroup` and changed only by
`AppendMeta`, which refuses a block of other labels or another resolution and
otherwise appends it and re-sorts by `MinTime`, and by `deleteFromGroup`, which
drops the blocks whose ULID is in a target set.  Go mutates the group through
its pointer; here each method takes the group and returns the group after the
call, with the error it returned.

`Group.WellFormed` is the representation invariant: members sorted by
`MinTime`, each with the group's labels and resolution.  `NewGroup` establishes
it and both mutations keep it (`wellFormed_applyOps`), so that `MinTime()`,
which reads the first member, is the least member `MinTime`, and `MaxTime()` is
the greatest member `MaxTime`.
-/

namespace Thanos.Compact.CompactionGroup

open Thanos.Compact.Primitives
open Thanos.Compact.Errors
open Thanos.Compact.Metadata

/-- `compact.Group`, with the fields the package reads; metrics and logger left out. -/
structure Group where
  key : String
  labels : Labels
  resolution : Int64
  metasByMinTime : List Meta
  acceptMalformedIndex : Bool
  enableVerticalCompaction : Bool
  blockFilesConcurrency : Int
  compactBlocksFetchConcurrency : Int

/-- `NewGroup`: an empty group, refused when `blockFilesConcurrency <= 0`. -/
def newGroup (key : String) (lset : Labels) (resolution : Int64)
    (acceptMalformedIndex enableVerticalCompaction : Bool)
    (blockFilesConcurrency compactBlocksFetchConcurrency : Int) : Except Error Group :=
  if blockFilesConcurrency ≤ 0 then
    .error (.new s!"invalid concurrency level ({blockFilesConcurrency}), blockFilesConcurrency level must be > 0")
  else
    .ok {
      key := key
      labels := lset
      resolution := resolution
      metasByMinTime := []
      acceptMalformedIndex := acceptMalformedIndex
      enableVerticalCompaction := enableVerticalCompaction
      blockFilesConcurrency := blockFilesConcurrency
      compactBlocksFetchConcurrency := compactBlocksFetchConcurrency }

/-- What `NewGroup` returns when it succeeds. -/
theorem newGroup_eq_ok {key : String} {lset : Labels} {resolution : Int64}
    {acceptMalformedIndex enableVerticalCompaction : Bool}
    {blockFilesConcurrency compactBlocksFetchConcurrency : Int} {cg : Group}
    (created : newGroup key lset resolution acceptMalformedIndex enableVerticalCompaction
      blockFilesConcurrency compactBlocksFetchConcurrency = .ok cg) :
    0 < blockFilesConcurrency ∧ cg.key = key ∧ cg.labels = lset ∧ cg.resolution = resolution ∧
      cg.metasByMinTime = [] ∧ cg.acceptMalformedIndex = acceptMalformedIndex ∧
      cg.enableVerticalCompaction = enableVerticalCompaction ∧
      cg.blockFilesConcurrency = blockFilesConcurrency ∧
      cg.compactBlocksFetchConcurrency = compactBlocksFetchConcurrency := by
  unfold newGroup at created
  split at created
  · cases created
  · cases created
    exact ⟨by omega, rfl, rfl, rfl, rfl, rfl, rfl, rfl, rfl⟩

section Mutations

variable (sortSlice : SortSlice)

/-- The order of `metasByMinTime`: by `MinTime`, equal times in either order. -/
def ByMinTime (left right : Meta) : Prop := left.minTime.toInt ≤ right.minTime.toInt

/--
`Group.AppendMeta`: the group after the call and the error returned.  A block of
other labels or another resolution is refused and the group left as it was.
-/
def Group.appendMeta (cg : Group) (meta : Meta) : Group × Option Error :=
  if cg.labels ≠ meta.thanos.labels then
    (cg, some (.new "block and group labels do not match"))
  else if cg.resolution ≠ meta.thanos.resolution then
    (cg, some (.new "block and group resolution do not match"))
  else
    ({ cg with
        metasByMinTime :=
          sortSlice.sortBy (fun member => member.minTime.toInt) (cg.metasByMinTime ++ [meta]) },
      none)

/-- `Group.deleteFromGroup`: keep, in order, the members whose ULID is not a target. -/
def Group.deleteFromGroup (cg : Group) (target : List Ulid) : Group :=
  { cg with metasByMinTime := cg.metasByMinTime.filter fun meta => meta.ulid ∉ target }

/-- `Group.IDs`: the members' ULIDs, sorted. -/
def Group.ids (cg : Group) : List Ulid :=
  sortSlice.sortBy id (cg.metasByMinTime.map (·.ulid))

/-- `Group.MinTime`: the first member's `MinTime`, `math.MaxInt64` for no member. -/
def Group.minTime (cg : Group) : Int64 :=
  match cg.metasByMinTime with
  | meta :: _ => meta.minTime
  | [] => Int64.maxValue

/-- One step of the loop of `Group.MaxTime`. -/
def maxTimeStep (max : Int64) (meta : Meta) : Int64 :=
  if meta.maxTime.toInt > max.toInt then meta.maxTime else max

/-- `Group.MaxTime`: the greatest member `MaxTime`, starting from `math.MinInt64`. -/
def Group.maxTime (cg : Group) : Int64 :=
  cg.metasByMinTime.foldl maxTimeStep Int64.minValue

@[simp]
theorem Group.length_ids (cg : Group) : (cg.ids sortSlice).length = cg.metasByMinTime.length := by
  simp [Group.ids]

/-- A refused `AppendMeta` leaves the group as it was. -/
theorem Group.appendMeta_of_error {cg : Group} {meta : Meta} {err : Error}
    (refused : (cg.appendMeta sortSlice meta).2 = some err) :
    (cg.appendMeta sortSlice meta).1 = cg := by
  unfold Group.appendMeta at *
  split_ifs at * <;> simp_all

/-- `AppendMeta` never changes the group's labels, resolution or settings. -/
theorem Group.appendMeta_frame (cg : Group) (meta : Meta) :
    (cg.appendMeta sortSlice meta).1.labels = cg.labels ∧
      (cg.appendMeta sortSlice meta).1.resolution = cg.resolution := by
  unfold Group.appendMeta
  split_ifs <;> exact ⟨rfl, rfl⟩

/-- The members after an accepted `AppendMeta`. -/
theorem Group.appendMeta_of_accepted {cg : Group} {meta : Meta}
    (labels : cg.labels = meta.thanos.labels) (resolution : cg.resolution = meta.thanos.resolution) :
    cg.appendMeta sortSlice meta =
      ({ cg with
          metasByMinTime :=
            sortSlice.sortBy (fun member => member.minTime.toInt) (cg.metasByMinTime ++ [meta]) },
        none) := by
  simp [Group.appendMeta, labels, resolution]

/-- `AppendMeta` is refused exactly for a block of other labels or another resolution. -/
theorem Group.appendMeta_error_iff (cg : Group) (meta : Meta) :
    (cg.appendMeta sortSlice meta).2.isSome ↔ cg.labels ≠ meta.thanos.labels ∨
      cg.resolution ≠ meta.thanos.resolution := by
  unfold Group.appendMeta
  split_ifs <;> simp_all

/-- A member survives `deleteFromGroup` exactly when its ULID is not a target. -/
@[simp]
theorem Group.mem_deleteFromGroup (cg : Group) (target : List Ulid) (meta : Meta) :
    meta ∈ (cg.deleteFromGroup target).metasByMinTime ↔
      meta ∈ cg.metasByMinTime ∧ meta.ulid ∉ target := by
  simp [Group.deleteFromGroup]

/--
`Group.areBlocksOverlapping`: the members not excluded, with the included block, sorted by
`MinTime` and passed to `tsdb.OverlappingBlocks` (`include` is named `included` here).  The overlaps the Go message
formats are left out of it.
-/
def Group.areBlocksOverlapping (cg : Group) (included : Option Meta) (exclude : List Meta) :
    Option Error :=
  let excludeMap := exclude.map (·.ulid)
  let metas := (cg.metasByMinTime.filter fun meta => meta.ulid ∉ excludeMap).map (·.toBlockMeta) ++
    (included.map (·.toBlockMeta)).toList
  if overlappingBlocks (sortSlice.sortBy (fun meta => meta.minTime.toInt) metas) then
    some (.new "overlaps found while gathering blocks.")
  else none

/-- The overlap check passes exactly when the checked blocks are pairwise disjoint. -/
theorem Group.areBlocksOverlapping_eq_none_iff (cg : Group) (included : Option Meta)
    (exclude : List Meta) :
    cg.areBlocksOverlapping sortSlice included exclude = none ↔
      PairwiseDisjoint
        ((cg.metasByMinTime.filter fun meta => meta.ulid ∉ exclude.map (·.ulid)).map
            (·.toBlockMeta) ++ (included.map (·.toBlockMeta)).toList) := by
  have sorted := sortSlice.sortBy_perm (fun meta : BlockMeta => meta.minTime.toInt)
    ((cg.metasByMinTime.filter fun meta => meta.ulid ∉ exclude.map (·.ulid)).map (·.toBlockMeta) ++
      (included.map (·.toBlockMeta)).toList)
  unfold Group.areBlocksOverlapping
  dsimp only
  split_ifs with overlap
  · refine iff_of_false (by simp) fun disjoint => ?_
    rw [← Bool.not_eq_false, overlappingBlocks_eq_false_iff] at overlap
    exact overlap (disjoint.perm sorted.symm)
  · refine iff_of_true rfl ?_
    rw [Bool.not_eq_true, overlappingBlocks_eq_false_iff] at overlap
    exact overlap.perm sorted

/-- Without exclusions or extra block, the check passes exactly for a disjoint group. -/
theorem Group.areBlocksOverlapping_none_nil (cg : Group) :
    cg.areBlocksOverlapping sortSlice none [] = none ↔
      PairwiseDisjoint (cg.metasByMinTime.map (·.toBlockMeta)) := by
  simp [Group.areBlocksOverlapping_eq_none_iff]

/-! ## The representation invariant -/

/-- Members sorted by `MinTime`, each with the group's labels and resolution. -/
structure Group.WellFormed (cg : Group) : Prop where
  sorted : cg.metasByMinTime.Sorted ByMinTime
  labels_eq : ∀ meta ∈ cg.metasByMinTime, meta.thanos.labels = cg.labels
  resolution_eq : ∀ meta ∈ cg.metasByMinTime, meta.thanos.resolution = cg.resolution

/-- A group with no member is well formed. -/
theorem Group.wellFormed_of_nil {cg : Group} (empty : cg.metasByMinTime = []) : cg.WellFormed where
  sorted := by simp [empty]
  labels_eq := by simp [empty]
  resolution_eq := by simp [empty]

/-- `AppendMeta` keeps the invariant. -/
theorem Group.WellFormed.appendMeta {cg : Group} (formed : cg.WellFormed) (meta : Meta) :
    (cg.appendMeta sortSlice meta).1.WellFormed := by
  by_cases accepted : cg.labels = meta.thanos.labels ∧ cg.resolution = meta.thanos.resolution
  · rw [Group.appendMeta_of_accepted sortSlice accepted.1 accepted.2]
    refine ⟨sortSlice.sortBy_sorted _ _, fun member belongs => ?_, fun member belongs => ?_⟩ <;>
      rcases List.mem_append.mp ((sortSlice.mem_sortBy _ _ _).mp belongs) with old | new
    · exact formed.labels_eq member old
    · rw [List.mem_singleton.mp new, accepted.1]
    · exact formed.resolution_eq member old
    · rw [List.mem_singleton.mp new, accepted.2]
  · have refused : (cg.appendMeta sortSlice meta).2.isSome := by
      rw [Group.appendMeta_error_iff]
      tauto
    obtain ⟨err, hasError⟩ := Option.isSome_iff_exists.mp refused
    rwa [Group.appendMeta_of_error sortSlice hasError]

/-- `deleteFromGroup` keeps the invariant. -/
theorem Group.WellFormed.deleteFromGroup {cg : Group} (formed : cg.WellFormed)
    (target : List Ulid) : (cg.deleteFromGroup target).WellFormed where
  sorted := formed.sorted.sublist (List.filter_sublist _)
  labels_eq meta belongs := formed.labels_eq meta ((cg.mem_deleteFromGroup target meta).mp belongs).1
  resolution_eq meta belongs :=
    formed.resolution_eq meta ((cg.mem_deleteFromGroup target meta).mp belongs).1

/-! ## Sequences of mutations -/

/-- One call of a mutating method of a group. -/
inductive GroupOp where
  | appendMeta (meta : Meta)
  | deleteFromGroup (target : List Ulid)

/-- The group after one mutation; a refused `AppendMeta` leaves it as it was. -/
def Group.apply (cg : Group) : GroupOp → Group
  | .appendMeta meta => (cg.appendMeta sortSlice meta).1
  | .deleteFromGroup target => cg.deleteFromGroup target

/-- The group after a sequence of mutations. -/
def Group.applyOps (cg : Group) (ops : List GroupOp) : Group :=
  ops.foldl (Group.apply sortSlice) cg

/-- One mutation keeps the invariant, the labels and the resolution. -/
theorem Group.WellFormed.apply {cg : Group} (formed : cg.WellFormed) (op : GroupOp) :
    (cg.apply sortSlice op).WellFormed ∧ (cg.apply sortSlice op).labels = cg.labels ∧
      (cg.apply sortSlice op).resolution = cg.resolution := by
  cases op with
  | appendMeta meta => exact ⟨formed.appendMeta sortSlice meta, cg.appendMeta_frame sortSlice meta⟩
  | deleteFromGroup target => exact ⟨formed.deleteFromGroup target, rfl, rfl⟩

/-- Every sequence of mutations keeps the invariant, the labels and the resolution. -/
theorem Group.WellFormed.applyOps {cg : Group} (formed : cg.WellFormed) (ops : List GroupOp) :
    (cg.applyOps sortSlice ops).WellFormed ∧ (cg.applyOps sortSlice ops).labels = cg.labels ∧
      (cg.applyOps sortSlice ops).resolution = cg.resolution := by
  induction ops generalizing cg with
  | nil => exact ⟨formed, rfl, rfl⟩
  | cons op rest induction =>
      obtain ⟨stepFormed, stepLabels, stepResolution⟩ := formed.apply sortSlice op
      obtain ⟨restFormed, restLabels, restResolution⟩ := induction stepFormed
      exact ⟨restFormed, restLabels.trans stepLabels, restResolution.trans stepResolution⟩

/-! ## `MinTime` and `MaxTime` -/

/-- In a well-formed group `MinTime()` is the least member `MinTime`. -/
theorem Group.WellFormed.minTime_isLeast {cg : Group} (formed : cg.WellFormed)
    (nonempty : cg.metasByMinTime ≠ []) :
    IsLeast {time | ∃ meta ∈ cg.metasByMinTime, meta.minTime.toInt = time}
      (cg.minTime).toInt := by
  obtain ⟨first, rest, split⟩ := List.exists_cons_of_ne_nil nonempty
  have sorted := formed.sorted
  rw [split] at sorted
  simp only [Group.minTime, split]
  refine ⟨⟨first, List.mem_cons_self _ _, rfl⟩, ?_⟩
  rintro _ ⟨meta, belongs, rfl⟩
  rcases List.mem_cons.mp belongs with rfl | later
  · exact le_rfl
  · exact (List.sorted_cons.mp sorted).1 meta later

/-- The loop of `MaxTime` ends at or above its start and every member, on one of them. -/
theorem foldl_maxTimeStep (metas : List Meta) (start : Int64) :
    start.toInt ≤ (metas.foldl maxTimeStep start).toInt ∧
      (∀ meta ∈ metas, meta.maxTime.toInt ≤ (metas.foldl maxTimeStep start).toInt) ∧
      (metas.foldl maxTimeStep start = start ∨
        ∃ meta ∈ metas, metas.foldl maxTimeStep start = meta.maxTime) := by
  induction metas generalizing start with
  | nil => simp
  | cons meta rest induction =>
      obtain ⟨above, bounds, reached⟩ := induction (maxTimeStep start meta)
      have stepAbove : start.toInt ≤ (maxTimeStep start meta).toInt ∧
          meta.maxTime.toInt ≤ (maxTimeStep start meta).toInt := by
        unfold maxTimeStep
        split_ifs <;> omega
      have stepIs : maxTimeStep start meta = start ∨ maxTimeStep start meta = meta.maxTime := by
        unfold maxTimeStep
        split_ifs <;> simp
      simp only [List.foldl_cons, List.mem_cons, forall_eq_or_imp, exists_eq_or_imp]
      refine ⟨stepAbove.1.trans above, ⟨stepAbove.2.trans above, bounds⟩, ?_⟩
      rcases reached with same | found
      · rw [same]
        rcases stepIs with kept | taken
        · exact Or.inl kept
        · exact Or.inr (Or.inl taken)
      · exact Or.inr (Or.inr found)

/-- `MaxTime()` is the greatest member `MaxTime`. -/
theorem Group.maxTime_isGreatest (cg : Group) (nonempty : cg.metasByMinTime ≠ []) :
    IsGreatest {time | ∃ meta ∈ cg.metasByMinTime, meta.maxTime.toInt = time}
      (cg.maxTime).toInt := by
  obtain ⟨_, bounds, reached⟩ := foldl_maxTimeStep cg.metasByMinTime Int64.minValue
  refine ⟨?_, fun _ ⟨meta, belongs, equal⟩ => equal ▸ bounds meta belongs⟩
  rcases reached with atStart | ⟨meta, belongs, equal⟩
  · obtain ⟨meta, belongs⟩ := List.exists_mem_of_ne_nil _ nonempty
    refine ⟨meta, belongs, le_antisymm (bounds meta belongs) ?_⟩
    have lower := meta.maxTime.min_le
    simp only [Group.maxTime, atStart, Int64.minValue_toInt]
    exact lower
  · exact ⟨meta, belongs, by rw [Group.maxTime, equal]⟩

/-- With no member, `MinTime()` is `math.MaxInt64` and `MaxTime()` is `math.MinInt64`. -/
theorem Group.minTime_maxTime_of_nil {cg : Group} (empty : cg.metasByMinTime = []) :
    cg.minTime = Int64.maxValue ∧ cg.maxTime = Int64.minValue := by
  simp [Group.minTime, Group.maxTime, empty]

/-! ## Groups built by `NewGroup` -/

/--
Every group created by `NewGroup` and changed by any sequence of `AppendMeta`
and `deleteFromGroup` calls keeps its members sorted by `MinTime`, all with the
labels and resolution it was created with; a refused `AppendMeta` leaves the
members unchanged; `deleteFromGroup` removes exactly the targets, keeping the
others in order; `MinTime()` and `MaxTime()` are the least member `MinTime` and
the greatest member `MaxTime`, and the two bounds of `int64` without members.
-/
theorem group_mutations_keep_representation (key : String) (lset : Labels) (resolution : Int64)
    (acceptMalformedIndex enableVerticalCompaction : Bool)
    (blockFilesConcurrency compactBlocksFetchConcurrency : Int) (cg : Group)
    (created : newGroup key lset resolution acceptMalformedIndex enableVerticalCompaction
      blockFilesConcurrency compactBlocksFetchConcurrency = .ok cg)
    (ops : List GroupOp) :
    let reached := cg.applyOps sortSlice ops
    reached.metasByMinTime.Sorted ByMinTime ∧
      (∀ meta ∈ reached.metasByMinTime,
        meta.thanos.labels = lset ∧ meta.thanos.resolution = resolution) ∧
      (∀ meta err, (reached.appendMeta sortSlice meta).2 = some err →
        (reached.appendMeta sortSlice meta).1.metasByMinTime = reached.metasByMinTime) ∧
      (∀ target, (reached.deleteFromGroup target).metasByMinTime =
        reached.metasByMinTime.filter fun meta => meta.ulid ∉ target) ∧
      (reached.metasByMinTime = [] →
        reached.minTime = Int64.maxValue ∧ reached.maxTime = Int64.minValue) ∧
      (reached.metasByMinTime ≠ [] →
        IsLeast {time | ∃ meta ∈ reached.metasByMinTime, meta.minTime.toInt = time}
            (reached.minTime).toInt ∧
          IsGreatest {time | ∃ meta ∈ reached.metasByMinTime, meta.maxTime.toInt = time}
            (reached.maxTime).toInt) := by
  obtain ⟨-, -, createdLabels, createdResolution, empty, -⟩ := newGroup_eq_ok created
  obtain ⟨formed, labels, resolutionEq⟩ :=
    (Group.wellFormed_of_nil empty).applyOps sortSlice ops
  refine ⟨formed.sorted, fun meta belongs => ?_,
    fun meta err refused => by rw [Group.appendMeta_of_error sortSlice refused],
    fun _ => rfl, Group.minTime_maxTime_of_nil,
    fun nonempty => ⟨formed.minTime_isLeast nonempty, Group.maxTime_isGreatest _ nonempty⟩⟩
  exact ⟨(formed.labels_eq meta belongs).trans (labels.trans createdLabels),
    (formed.resolution_eq meta belongs).trans (resolutionEq.trans createdResolution)⟩

/-- `NewGroup` succeeds and every mutation sequence keeps the group sorted by `MinTime`. -/
theorem group_mutations_keep_representation_of_new :
    newGroup "0@{}" [] (Int64.ofInt 0) false false 1 1 =
        .ok ⟨"0@{}", [], Int64.ofInt 0, [], false, false, 1, 1⟩ ∧
      ((⟨"0@{}", [], Int64.ofInt 0, [], false, false, 1, 1⟩ : Group).applyOps
        insertionSortSlice []).metasByMinTime.Sorted ByMinTime :=
  ⟨rfl, (group_mutations_keep_representation insertionSortSlice "0@{}" [] (Int64.ofInt 0) false false
    1 1 _ rfl []).1⟩

end Mutations

end Thanos.Compact.CompactionGroup
