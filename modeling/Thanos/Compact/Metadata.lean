import Thanos.Compact.Primitives

/-!
# Block metadata

A block's `metadata.Meta` joins the TSDB part (`tsdb.BlockMeta`: ULID, the
half-open time range `[MinTime, MaxTime)`, statistics and compaction
provenance) with the Thanos part (external labels and downsample resolution).
`Meta` keeps exactly the fields the package reads: the ULID, the two times,
`Stats.NumSamples`, `Compaction.Level`, `Compaction.Sources`, `Thanos.Labels`
and `Thanos.Downsample.Resolution`.

External labels are a Go `map[string]string` that the package only ever reads
through `labels.FromMap`, which sorts the pairs by name; `Labels` is that
sorted list, so `labels.Equal` of two such images is equality.

The overlap test of the package is `tsdb.OverlappingBlocks`, a Prometheus
function outside the repository.  It is taken here as an exact detector: it
reports an overlap exactly when two of its blocks' half-open ranges share an
instant.
-/

namespace Thanos.Compact.Metadata

open Thanos.Compact.Primitives

/-- External labels as `labels.FromMap` returns them: name/value pairs sorted by name. -/
abbrev Labels := List (String × String)

/-- The TSDB part of a block's metadata that the package reads. -/
structure BlockMeta where
  ulid : Ulid
  minTime : Int64
  maxTime : Int64
  /-- `Stats.NumSamples`. -/
  numSamples : Nat
  /-- `Compaction.Level`. -/
  level : Nat
  /-- `Compaction.Sources`. -/
  sources : List Ulid
deriving DecidableEq

/-- The Thanos part of a block's metadata that the package reads. -/
@[ext]
structure Thanos where
  labels : Labels
  /-- `Downsample.Resolution`. -/
  resolution : Int64
deriving DecidableEq

/-- `metadata.Meta`: the TSDB block meta with its Thanos section. -/
structure Meta extends BlockMeta where
  thanos : Thanos
deriving DecidableEq

/-! ## Overlapping time ranges -/

/-- The half-open ranges `[minTime, maxTime)` of two blocks share an instant. -/
def Overlaps (left right : BlockMeta) : Prop :=
  max left.minTime.toInt right.minTime.toInt < min left.maxTime.toInt right.maxTime.toInt

instance (left right : BlockMeta) : Decidable (Overlaps left right) :=
  inferInstanceAs (Decidable (_ < _))

/-- Overlapping is symmetric. -/
theorem Overlaps.symm {left right : BlockMeta} (overlap : Overlaps left right) :
    Overlaps right left := by
  unfold Overlaps at *
  rwa [max_comm, min_comm]

/-- Some instant lies in both ranges exactly when the ranges overlap. -/
theorem overlaps_iff_common_instant (left right : BlockMeta) :
    Overlaps left right ↔
      ∃ instant : Int,
        left.minTime.toInt ≤ instant ∧ instant < left.maxTime.toInt ∧
          right.minTime.toInt ≤ instant ∧ instant < right.maxTime.toInt := by
  unfold Overlaps
  constructor
  · intro overlap
    exact ⟨max left.minTime.toInt right.minTime.toInt, by omega⟩
  · rintro ⟨instant, leftMin, leftMax, rightMin, rightMax⟩
    omega

/-- No two blocks of the list overlap. -/
def PairwiseDisjoint (metas : List BlockMeta) : Prop :=
  metas.Pairwise fun left right => ¬ Overlaps left right

instance (metas : List BlockMeta) : Decidable (PairwiseDisjoint metas) :=
  inferInstanceAs (Decidable (List.Pairwise _ _))

/-- Disjointness does not depend on the order of the blocks. -/
theorem PairwiseDisjoint.perm {metas others : List BlockMeta}
    (permutation : metas.Perm others) (disjoint : PairwiseDisjoint metas) :
    PairwiseDisjoint others :=
  permutation.pairwise disjoint fun different overlap => different overlap.symm

/-- Disjointness passes to sub-lists. -/
theorem PairwiseDisjoint.sublist {metas others : List BlockMeta}
    (sublist : others.Sublist metas) (disjoint : PairwiseDisjoint metas) :
    PairwiseDisjoint others :=
  List.Pairwise.sublist sublist disjoint

/--
Modelled from the spec: `tsdb.OverlappingBlocks` is outside the repository; the
overlap check reports an overlap when some two blocks' `[minTime, maxTime)`
ranges overlap.
-/
def overlappingBlocks (metas : List BlockMeta) : Bool :=
  !decide (PairwiseDisjoint metas)

@[simp]
theorem overlappingBlocks_eq_false_iff (metas : List BlockMeta) :
    overlappingBlocks metas = false ↔ PairwiseDisjoint metas := by
  simp [overlappingBlocks]

end Thanos.Compact.Metadata
