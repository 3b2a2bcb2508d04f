import Mathlib.Algebra.BigOperators.Group.List
import Mathlib.Algebra.Order.Ring.Nat
import Thanos.Compact.CompactionGroup

/-!
# The downsample and retention progress calculators

A progress calculator walks the groups of the grouper and sets a gauge to the
amount of work left.  The downsample calculator counts the blocks still to be
downsampled and the retention calculator the blocks past their retention; the
compaction calculator, which simulates the planner, is `CompactionProgress`.

Each calculator keeps a Go `map[string]int` from group key to a count, then
sets its gauge to zero and adds every count.  `Tally` is that map as its
entries in insertion order, and `Tally.add` is `m[key] += n`.  The gauge is a
natural number: a Prometheus gauge holds a `float64`, which adds whole numbers
exactly below `2^53`, far above any number of blocks.  The nested loops over
the groups and their `metasByMinTime` run over the blocks in the order of
`groups.flatMap (·.metasByMinTime)`.

The downsample levels and ranges are the constants of the Thanos `downsample`
package, outside the repository.  Wall-clock times are nanoseconds since the
Unix epoch, as `time.Time` holds them, and a retention is a `time.Duration`
in nanoseconds, whose `Seconds()` is zero exactly for the zero duration.
-/

namespace Thanos.Compact.ProgressCalculators

open Thanos.Compact.Primitives
open Thanos.Compact.Errors
open Thanos.Compact.Metadata
open Thanos.Compact.CompactionGroup

/-! ## Per-group-key tallies -/

/-- A Go `map[string]int` of counts by group key, as its entries in insertion order. -/
abbrev Tally := List (String × Nat)

/-- `m[key] += n`: add to the key's entry, or insert the key. -/
def Tally.add : Tally → String → Nat → Tally
  | [], key, n => [(key, n)]
  | (other, count) :: rest, key, n =>
    if other = key then (other, count + n) :: rest else (other, count) :: Tally.add rest key n

/-- `m[key]`: the key's count, zero for a missing key. -/
def Tally.get (tally : Tally) (key : String) : Nat :=
  ((tally.find? fun entry => entry.1 = key).map Prod.snd).getD 0

/-- `gauge.Set(0)`, then `gauge.Add(float64(count))` for every entry of the map. -/
def Tally.total (tally : Tally) : Nat := (tally.map Prod.snd).sum

@[simp]
theorem Tally.total_nil : Tally.total [] = 0 := rfl

@[simp]
theorem Tally.total_add (tally : Tally) (key : String) (n : Nat) :
    (tally.add key n).total = tally.total + n := by
  induction tally with
  | nil => simp [Tally.add, Tally.total]
  | cons entry rest induction =>
    obtain ⟨other, count⟩ := entry
    unfold Tally.add
    split_ifs
    · simp only [Tally.total, List.map_cons, List.sum_cons]
      omega
    · simp only [Tally.total, List.map_cons, List.sum_cons] at induction ⊢
      omega

/-- The nested loops of a calculator from the state `init`: `count key state m`
is the body for the block `m` of the group with key `key`. -/
def tallyGroups {State : Type} (count : String → State → Meta → State) (init : State)
    (groups : List Group) : State :=
  groups.foldl (fun state group => group.metasByMinTime.foldl (count group.key) state) init

/-- A loop body that adds one for the blocks satisfying `counted` adds up to
the number of those blocks. -/
theorem total_tallyGroups {count : String → Tally → Meta → Tally} {counted : Meta → Bool}
    (groups : List Group)
    (body : ∀ group ∈ groups, ∀ m ∈ group.metasByMinTime, ∀ tally,
      count group.key tally m = if counted m then tally.add group.key 1 else tally) :
    (tallyGroups count [] groups).total = ((groups.flatMap (·.metasByMinTime)).filter counted).length := by
  have inner : ∀ (key : String) (metas : List Meta) (tally : Tally),
      (∀ m ∈ metas, ∀ tally, count key tally m = if counted m then tally.add key 1 else tally) →
      (metas.foldl (count key) tally).total = tally.total + (metas.filter counted).length := by
    intro key metas
    induction metas with
    | nil => simp
    | cons m rest induction =>
      intro tally step
      rw [List.foldl_cons, induction _ fun m' mem => step m' (.tail _ mem), step m (.head _)]
      cases countedM : counted m <;> simp [List.filter_cons, countedM, Nat.add_assoc, Nat.add_comm 1]
  suffices ∀ tally : Tally, (groups.foldl (fun tally group => group.metasByMinTime.foldl
      (count group.key) tally) tally).total =
        tally.total + ((groups.flatMap (·.metasByMinTime)).filter counted).length by
    simpa using this []
  induction groups with
  | nil => simp
  | cons group rest induction =>
    intro tally
    rw [List.foldl_cons, induction (fun g mem => body g (.tail _ mem)),
      inner _ _ _ (body group (.head _)), List.flatMap_cons, List.filter_append, List.length_append]
    omega

/-! ## Downsample progress -/

/-- `downsample.ResLevel0`: raw data. -/
def resLevel0 : Int := 0

/-- `downsample.ResLevel1`: five minutes, in milliseconds. -/
def resLevel1 : Int := 5 * 60 * 1000

/-- `downsample.ResLevel2`: one hour, in milliseconds. -/
def resLevel2 : Int := 60 * 60 * 1000

/-- `downsample.ResLevel1DownsampleRange`: forty hours, in milliseconds. -/
def resLevel1DownsampleRange : Int := 40 * 60 * 60 * 1000

/-- `downsample.ResLevel2DownsampleRange`: ten days, in milliseconds. -/
def resLevel2DownsampleRange : Int := 10 * 24 * 60 * 60 * 1000

/-- The first loop: the sources of the 5m blocks and of the 1h blocks, or the
error for the first block of an unexpected resolution. -/
def collectSources : List Ulid → List Ulid → List Meta → Except Error (List Ulid × List Ulid)
  | sources5m, sources1h, [] => .ok (sources5m, sources1h)
  | sources5m, sources1h, m :: rest =>
    if m.thanos.resolution.toInt = resLevel0 then collectSources sources5m sources1h rest
    else if m.thanos.resolution.toInt = resLevel1 then
      collectSources (sources5m ++ m.sources) sources1h rest
    else if m.thanos.resolution.toInt = resLevel2 then
      collectSources sources5m (sources1h ++ m.sources) rest
    else .error (.new s!"unexpected downsampling resolution {m.thanos.resolution.toInt}")

/-- The inner loop over a block's sources, which breaks at the first source
missing from `covered`. -/
def missingSource (covered : List Ulid) : List Ulid → Bool
  | [] => false
  | id :: rest => if id ∈ covered then missingSource covered rest else true

/-- The body of the second loop: a raw block spanning the 5m range, or a 5m
block spanning the 1h range, with a source not covered at the next level
counts for its group.  The span is an `int64` subtraction. -/
def countToDownsample (sources5m sources1h : List Ulid) (key : String) (groupBlocks : Tally)
    (m : Meta) : Tally :=
  let span := (Int64.ofInt (m.maxTime.toInt - m.minTime.toInt)).toInt
  if m.thanos.resolution.toInt = resLevel0 then
    if !missingSource sources5m m.sources then groupBlocks
    else if span < resLevel1DownsampleRange then groupBlocks
    else groupBlocks.add key 1
  else if m.thanos.resolution.toInt = resLevel1 then
    if !missingSource sources1h m.sources then groupBlocks
    else if span < resLevel2DownsampleRange then groupBlocks
    else groupBlocks.add key 1
  else groupBlocks

/-- `DownsampleProgressCalculator.ProgressCalculate`: the gauge after the call
and the error it returns. -/
def downsampleProgressCalculate (gauge : Nat) (groups : List Group) : Nat × Option Error :=
  match collectSources [] [] (groups.flatMap (·.metasByMinTime)) with
  | .error err => (gauge, some err)
  | .ok (sources5m, sources1h) =>
    ((tallyGroups (countToDownsample sources5m sources1h) [] groups).total, none)

/-- A block that still waits for downsampling, judged from resolutions and
sources alone: a raw block spanning the 5m range with a source in no 5m
block's sources, or a 5m block spanning the 1h range with a source in no 1h
block's sources, among all `metas`. -/
def AwaitsDownsampling (metas : List Meta) (m : Meta) : Prop :=
  (m.thanos.resolution.toInt = resLevel0 ∧
      resLevel1DownsampleRange ≤ m.maxTime.toInt - m.minTime.toInt ∧
      ∃ source ∈ m.sources, ∀ other ∈ metas,
        other.thanos.resolution.toInt = resLevel1 → source ∉ other.sources) ∨
  (m.thanos.resolution.toInt = resLevel1 ∧
      resLevel2DownsampleRange ≤ m.maxTime.toInt - m.minTime.toInt ∧
      ∃ source ∈ m.sources, ∀ other ∈ metas,
        other.thanos.resolution.toInt = resLevel2 → source ∉ other.sources)

instance (metas : List Meta) (m : Meta) : Decidable (AwaitsDownsampling metas m) :=
  inferInstanceAs (Decidable (_ ∨ _))

/-- The sources of the blocks at one resolution. -/
def levelSources (level : Int) (metas : List Meta) : List Ulid :=
  (metas.filter fun m => m.thanos.resolution.toInt = level).flatMap (·.sources)

/-- A resolution the calculator knows. -/
def KnownResolution (m : Meta) : Prop :=
  m.thanos.resolution.toInt = resLevel0 ∨ m.thanos.resolution.toInt = resLevel1 ∨
    m.thanos.resolution.toInt = resLevel2

theorem collectSources_of_known (sources5m sources1h : List Ulid) {metas : List Meta}
    (known : ∀ m ∈ metas, KnownResolution m) :
    collectSources sources5m sources1h metas =
      .ok (sources5m ++ levelSources resLevel1 metas, sources1h ++ levelSources resLevel2 metas) := by
  induction metas generalizing sources5m sources1h with
  | nil => simp [collectSources, levelSources]
  | cons m rest induction =>
    have rest_known := fun m' mem => known m' (.tail _ mem)
    rcases known m (.head _) with level | level | level
    · rw [collectSources, if_pos level, induction _ _ rest_known]
      simp [levelSources, level, resLevel0, resLevel1, resLevel2]
    · rw [collectSources, if_neg (by rw [level]; decide), if_pos level, induction _ _ rest_known]
      simp [levelSources, level, resLevel0, resLevel1, resLevel2]
    · rw [collectSources, if_neg (by rw [level]; decide), if_neg (by rw [level]; decide),
        if_pos level, induction _ _ rest_known]
      simp [levelSources, level, resLevel0, resLevel1, resLevel2]

theorem collectSources_of_unknown (sources5m sources1h : List Ulid) {metas : List Meta}
    {m : Meta} (mem : m ∈ metas) (unknown : ¬ KnownResolution m) :
    ∃ err, collectSources sources5m sources1h metas = .error err := by
  induction metas generalizing sources5m sources1h with
  | nil => cases mem
  | cons first rest induction =>
    rcases List.mem_cons.mp mem with rfl | later
    · simp only [KnownResolution, not_or] at unknown
      simp [collectSources, unknown]
    · unfold collectSources
      split_ifs
      all_goals first | exact induction _ _ later | exact ⟨_, rfl⟩

theorem missingSource_eq_any (covered sources : List Ulid) :
    missingSource covered sources = sources.any fun id => id ∉ covered := by
  induction sources with
  | nil => rfl
  | cons id rest induction => by_cases covers : id ∈ covered <;> simp [missingSource, covers, induction]

/-- With `0 ≤ MinTime ≤ MaxTime`, the `int64` span of a block does not wrap. -/
theorem span_of_times (m : Meta) (times : 0 ≤ m.minTime.toInt ∧ m.minTime.toInt ≤ m.maxTime.toInt) :
    (Int64.ofInt (m.maxTime.toInt - m.minTime.toInt)).toInt = m.maxTime.toInt - m.minTime.toInt :=
  Int64.toInt_ofInt_of_range (by have := m.maxTime.min_le; omega) (by have := m.maxTime.le_max; omega)

/-- With no wrap-around in the span, the body of the second loop adds one
exactly for a block awaiting downsampling. -/
theorem countToDownsample_eq (metas : List Meta) (key : String) (groupBlocks : Tally) (m : Meta)
    (times : 0 ≤ m.minTime.toInt ∧ m.minTime.toInt ≤ m.maxTime.toInt) :
    countToDownsample (levelSources resLevel1 metas) (levelSources resLevel2 metas) key
        groupBlocks m =
      if decide (AwaitsDownsampling metas m) then groupBlocks.add key 1 else groupBlocks := by
  have span := span_of_times m times
  have missing : ∀ level, (∃ source ∈ m.sources, ∀ other ∈ metas,
        other.thanos.resolution.toInt = level → source ∉ other.sources) ↔
      missingSource (levelSources level metas) m.sources = true := by
    intro level
    simp [missingSource_eq_any, levelSources]
  unfold countToDownsample AwaitsDownsampling
  simp only [span, missing]
  split_ifs <;> simp_all [resLevel0, resLevel1] <;> omega

/-- For every list of groups whose blocks satisfy `0 ≤ MinTime ≤ MaxTime`, the
downsample calculator fails exactly when some block has a resolution other
than raw, 5m and 1h, and then leaves the gauge as it was; otherwise it sets
the gauge to the number of blocks, counted over all groups, that are raw,
span the 5m downsample range and have a source in no 5m block's sources, or
are at 5m, span the 1h range and have a source in no 1h block's sources. -/
theorem downsample_progress_counts (gauge : Nat) (groups : List Group)
    (times : ∀ group ∈ groups, ∀ m ∈ group.metasByMinTime,
      0 ≤ m.minTime.toInt ∧ m.minTime.toInt ≤ m.maxTime.toInt) :
    ((downsampleProgressCalculate gauge groups).2.isSome ↔
      ∃ group ∈ groups, ∃ m ∈ group.metasByMinTime, m.thanos.resolution.toInt ≠ resLevel0 ∧
        m.thanos.resolution.toInt ≠ resLevel1 ∧ m.thanos.resolution.toInt ≠ resLevel2) ∧
    ((downsampleProgressCalculate gauge groups).2.isSome →
      (downsampleProgressCalculate gauge groups).1 = gauge) ∧
    ((downsampleProgressCalculate gauge groups).2 = none →
      (downsampleProgressCalculate gauge groups).1 =
        ((groups.flatMap (·.metasByMinTime)).filter fun m =>
          decide (AwaitsDownsampling (groups.flatMap (·.metasByMinTime)) m)).length) := by
  by_cases known : ∀ m ∈ groups.flatMap (·.metasByMinTime), KnownResolution m
  · have counted := @total_tallyGroups _
      (fun m => decide (AwaitsDownsampling (groups.flatMap (·.metasByMinTime)) m)) groups
      fun group mem m belongs tally =>
        countToDownsample_eq _ group.key tally m (times group mem m belongs)
    simp only [downsampleProgressCalculate, collectSources_of_known [] [] known, List.nil_append,
      counted, Option.isSome_none, Bool.false_eq_true, false_iff, IsEmpty.forall_iff, true_and,
      forall_const, and_true]
    simp only [List.mem_flatMap, KnownResolution] at known
    rintro ⟨group, mem, m, belongs, raw, fine, coarse⟩
    rcases known m ⟨group, mem, belongs⟩ with known | known | known <;> contradiction
  · push_neg at known
    obtain ⟨m, mem, unknown⟩ := known
    obtain ⟨err, failed⟩ := collectSources_of_unknown [] [] mem unknown
    simp only [List.mem_flatMap, KnownResolution, not_or] at mem unknown
    obtain ⟨group, member, belongs⟩ := mem
    simp [downsampleProgressCalculate, failed]
    exact ⟨group, member, m, belongs, unknown⟩

/-- A block of one source at resolution `resolution`, from `0` to `maxTime`. -/
def sourceBlock (id : Ulid) (resolution maxTime : Int) : Meta :=
  ⟨⟨id, Int64.ofInt 0, Int64.ofInt maxTime, 1, 1, [id]⟩, ⟨[], Int64.ofInt resolution⟩⟩

/-- A group at labels `{}` and resolution 0 holding `metas`. -/
def labelFreeGroup (metas : List Meta) : Group :=
  ⟨"0@{}", [], Int64.ofInt 0, metas, false, false, 1, 1⟩

/-- A raw block spanning exactly forty hours, with no 5m block: the
calculator succeeds and counts it. -/
theorem downsample_progress_counts_raw_block :
    (downsampleProgressCalculate 7 [labelFreeGroup [sourceBlock 1 0 144000000]]).2 = none ∧
      (downsampleProgressCalculate 7 [labelFreeGroup [sourceBlock 1 0 144000000]]).1 = 1 :=
  have counts := downsample_progress_counts 7 [labelFreeGroup [sourceBlock 1 0 144000000]]
    (by decide)
  have succeeds : (downsampleProgressCalculate 7
      [labelFreeGroup [sourceBlock 1 0 144000000]]).2 = none := by decide
  ⟨succeeds, (counts.2.2 succeeds).trans (by decide)⟩

/-! ## The time until the next downsampling -/

/-- `time.Millisecond`, in nanoseconds. -/
def millisecond : Int := 1000000

/-- `UntilNextDownsampling`: the `time.Duration`, in nanoseconds, until the
block spans the range of the next resolution, or the error for a 1h block;
`none` is the panic on any other resolution.  The span and its conversion to
nanoseconds are `int64` operations, and so is the subtraction of durations. -/
def untilNextDownsampling (m : Meta) : Option (Except Error Int64) :=
  let timeRange :=
    Int64.ofInt ((Int64.ofInt (m.maxTime.toInt - m.minTime.toInt)).toInt * millisecond)
  if m.thanos.resolution.toInt = resLevel2 then some (.error (.new "no downsampling"))
  else if m.thanos.resolution.toInt = resLevel1 then
    some (.ok (Int64.ofInt (resLevel2DownsampleRange * millisecond - timeRange.toInt)))
  else if m.thanos.resolution.toInt = resLevel0 then
    some (.ok (Int64.ofInt (resLevel1DownsampleRange * millisecond - timeRange.toInt)))
  else none

/-- With no wrap-around in the span and in its conversion to nanoseconds, the
time until the next downsampling of a raw or 5m block is the downsample range
of the next resolution less the span. -/
theorem untilNextDownsampling_of_fits (m : Meta)
    (times : 0 ≤ m.minTime.toInt ∧ m.minTime.toInt ≤ m.maxTime.toInt)
    (fits : (m.maxTime.toInt - m.minTime.toInt) * millisecond ≤ 9223372036854775807) :
    (m.thanos.resolution.toInt = resLevel0 → ∃ wait, untilNextDownsampling m = some (.ok wait) ∧
      wait.toInt = (resLevel1DownsampleRange - (m.maxTime.toInt - m.minTime.toInt)) * millisecond) ∧
    (m.thanos.resolution.toInt = resLevel1 → ∃ wait, untilNextDownsampling m = some (.ok wait) ∧
      wait.toInt = (resLevel2DownsampleRange - (m.maxTime.toInt - m.minTime.toInt)) * millisecond) := by
  have timeRange : (Int64.ofInt ((Int64.ofInt (m.maxTime.toInt - m.minTime.toInt)).toInt *
      millisecond)).toInt = (m.maxTime.toInt - m.minTime.toInt) * millisecond := by
    rw [span_of_times m times]
    exact Int64.toInt_ofInt_of_range (by simp only [millisecond]; omega) fits
  simp only [millisecond] at fits timeRange
  refine ⟨fun raw => ?_, fun fiveMinutes => ?_⟩
  · simp [untilNextDownsampling, raw, resLevel0, resLevel1, resLevel2, timeRange, millisecond]
    rw [Int64.toInt_ofInt_of_range] <;> simp only [resLevel1DownsampleRange] <;> omega
  · simp [untilNextDownsampling, fiveMinutes, resLevel1, resLevel2, timeRange, millisecond]
    rw [Int64.toInt_ofInt_of_range] <;> simp only [resLevel2DownsampleRange] <;> omega

/-- The downsample calculator and `UntilNextDownsampling` agree: for a raw or
5m block with a source the next level does not cover, and whose span in
nanoseconds fits an `int64`, the calculator counts the block exactly when the
time until its next downsampling is not positive. -/
theorem countToDownsample_eq_of_untilNextDownsampling (sources5m sources1h : List Ulid)
    (key : String) (groupBlocks : Tally) (m : Meta)
    (times : 0 ≤ m.minTime.toInt ∧ m.minTime.toInt ≤ m.maxTime.toInt)
    (fits : (m.maxTime.toInt - m.minTime.toInt) * millisecond ≤ 9223372036854775807)
    (uncovered : (m.thanos.resolution.toInt = resLevel0 ∧ missingSource sources5m m.sources = true) ∨
      (m.thanos.resolution.toInt = resLevel1 ∧ missingSource sources1h m.sources = true)) :
    ∃ wait, untilNextDownsampling m = some (.ok wait) ∧
      countToDownsample sources5m sources1h key groupBlocks m =
        if wait.toInt ≤ 0 then groupBlocks.add key 1 else groupBlocks := by
  have span := span_of_times m times
  obtain ⟨raw, missing⟩ | ⟨fiveMinutes, missing⟩ := uncovered
  · obtain ⟨wait, computed, value⟩ := (untilNextDownsampling_of_fits m times fits).1 raw
    have short : m.maxTime.toInt - m.minTime.toInt < resLevel1DownsampleRange ↔ ¬ wait.toInt ≤ 0 := by
      simp only [value, millisecond]
      omega
    refine ⟨wait, computed, ?_⟩
    unfold countToDownsample
    simp only [span, raw, missing, short, if_true, Bool.not_true, Bool.false_eq_true, if_false, ite_not]
  · obtain ⟨wait, computed, value⟩ := (untilNextDownsampling_of_fits m times fits).2 fiveMinutes
    have notRaw : resLevel1 ≠ resLevel0 := by simp [resLevel0, resLevel1]
    have short : m.maxTime.toInt - m.minTime.toInt < resLevel2DownsampleRange ↔ ¬ wait.toInt ≤ 0 := by
      simp only [value, millisecond]
      omega
    refine ⟨wait, computed, ?_⟩
    unfold countToDownsample
    simp only [span, notRaw, fiveMinutes, missing, short, if_true, Bool.not_true, Bool.false_eq_true,
      if_false, ite_not]

/-- The raw block spanning forty hours, with no 5m block: it is due now, and
the calculator counts it. -/
theorem countToDownsample_eq_of_untilNextDownsampling_of_source_block :
    let m := sourceBlock 1 0 144000000
    (0 ≤ m.minTime.toInt ∧ m.minTime.toInt ≤ m.maxTime.toInt) ∧
    (m.maxTime.toInt - m.minTime.toInt) * millisecond ≤ 9223372036854775807 ∧
    ((m.thanos.resolution.toInt = resLevel0 ∧ missingSource [] m.sources = true) ∨
      (m.thanos.resolution.toInt = resLevel1 ∧ missingSource [] m.sources = true)) ∧
    ∃ wait, untilNextDownsampling m = some (.ok wait) ∧
      countToDownsample [] [] "0@{}" [] m = if wait.toInt ≤ 0 then Tally.add [] "0@{}" 1 else [] :=
  have times : 0 ≤ (sourceBlock 1 0 144000000).minTime.toInt ∧
      (sourceBlock 1 0 144000000).minTime.toInt ≤ (sourceBlock 1 0 144000000).maxTime.toInt := by decide
  have fits : ((sourceBlock 1 0 144000000).maxTime.toInt - (sourceBlock 1 0 144000000).minTime.toInt) *
      millisecond ≤ 9223372036854775807 := by decide
  have uncovered : ((sourceBlock 1 0 144000000).thanos.resolution.toInt = resLevel0 ∧
      missingSource [] (sourceBlock 1 0 144000000).sources = true) ∨
      ((sourceBlock 1 0 144000000).thanos.resolution.toInt = resLevel1 ∧
        missingSource [] (sourceBlock 1 0 144000000).sources = true) := .inl (by decide)
  ⟨times, fits, uncovered, countToDownsample_eq_of_untilNextDownsampling [] [] "0@{}" []
    (sourceBlock 1 0 144000000) times fits uncovered⟩

/-! ## Retention progress

The loop calls `time.Now()` once for every block whose resolution has a
non-zero retention, so a call can see the clock move between two blocks.
`clock i` is the time the `i`-th of those readings returns, and the loop's
state holds the tally and the number of readings made so far. -/

/-- The body of the loop: a block whose resolution has a non-zero retention
reads the clock and counts when that reading is after its `MaxTime`, cut to
whole seconds by `time.Unix(m.MaxTime/1000, 0)`, plus the retention.  A
resolution missing from the map has the zero retention. -/
def countExpired (retentionByResolution : Int → Int) (clock : Nat → Int) (key : String) :
    Tally × Nat → Meta → Tally × Nat
  | (groupBlocks, reads), m =>
    let retentionDuration := retentionByResolution m.thanos.resolution.toInt
    if retentionDuration = 0 then (groupBlocks, reads)
    else
      let maxTime := m.maxTime.toInt.tdiv 1000 * 1000000000
      if maxTime + retentionDuration < clock reads then (groupBlocks.add key 1, reads + 1)
      else (groupBlocks, reads + 1)

/-- `RetentionProgressCalculator.ProgressCalculate` against the clock `clock`:
the gauge after the call.  The error it returns is always nil. -/
def retentionProgressCalculate (retentionByResolution : Int → Int) (clock : Nat → Int)
    (groups : List Group) : Nat :=
  (tallyGroups (countExpired retentionByResolution clock) ([], 0) groups).1.total

/-- The blocks that read the clock, in the loop's order, each with the time
its reading returns, when `reads` readings were made before them. -/
def clockReadings (retentionByResolution : Int → Int) (clock : Nat → Int) (reads : Nat) :
    List Meta → List (Meta × Int)
  | [] => []
  | m :: rest =>
    if retentionByResolution m.thanos.resolution.toInt = 0 then
      clockReadings retentionByResolution clock reads rest
    else (m, clock reads) :: clockReadings retentionByResolution clock (reads + 1) rest

@[simp]
theorem clockReadings_append (retentionByResolution : Int → Int) (clock : Nat → Int)
    (reads : Nat) (front back : List Meta) :
    clockReadings retentionByResolution clock reads (front ++ back) =
      clockReadings retentionByResolution clock reads front ++
        clockReadings retentionByResolution clock
          (reads + (clockReadings retentionByResolution clock reads front).length) back := by
  induction front generalizing reads with
  | nil => simp [clockReadings]
  | cons m rest induction =>
    by_cases zero : retentionByResolution m.thanos.resolution.toInt = 0 <;>
      simp [clockReadings, zero, induction, Nat.add_assoc, Nat.add_comm 1]

/-- A block past its retention, compared exactly in milliseconds: a non-zero
retention, and `MaxTime + retention < now`.  Both sides are taken here in
nanoseconds. -/
def PastRetention (retention now : Int) (m : Meta) : Prop :=
  retention ≠ 0 ∧ m.maxTime.toInt * 1000000 + retention < now

instance (retention now : Int) (m : Meta) : Decidable (PastRetention retention now m) :=
  inferInstanceAs (Decidable (_ ∧ _))

/-- A block counted by the calculator: a non-zero retention, and `MaxTime` in
whole seconds plus the retention before `now`. -/
def ExpiredBySeconds (retention now : Int) (m : Meta) : Prop :=
  retention ≠ 0 ∧ m.maxTime.toInt.tdiv 1000 * 1000000000 + retention < now

instance (retention now : Int) (m : Meta) : Decidable (ExpiredBySeconds retention now m) :=
  inferInstanceAs (Decidable (_ ∧ _))

section Retention

variable (retentionByResolution : Int → Int) (clock : Nat → Int)

/-- Whether the calculator counts a block at the clock reading paired with it. -/
abbrev Expired (reading : Meta × Int) : Bool :=
  decide (ExpiredBySeconds (retentionByResolution reading.1.thanos.resolution.toInt) reading.2
    reading.1)

/-- The inner loop over one group's blocks adds one for every reading that
finds its block expired, and makes one reading per block with a non-zero
retention. -/
theorem foldl_countExpired (key : String) (metas : List Meta) (tally : Tally) (reads : Nat) :
    let after := metas.foldl (countExpired retentionByResolution clock key) (tally, reads)
    after.1.total = tally.total +
        ((clockReadings retentionByResolution clock reads metas).filter
          (Expired retentionByResolution)).length ∧
      after.2 = reads + (clockReadings retentionByResolution clock reads metas).length := by
  induction metas generalizing tally reads with
  | nil => simp [clockReadings]
  | cons m rest induction =>
    by_cases zero : retentionByResolution m.thanos.resolution.toInt = 0
    · simpa [countExpired, clockReadings, zero] using induction tally reads
    · have later := fun tally => induction tally (reads + 1)
      simp only [List.foldl_cons] at later
      by_cases expired : m.maxTime.toInt.tdiv 1000 * 1000000000 +
          retentionByResolution m.thanos.resolution.toInt < clock reads <;>
        simp [countExpired, clockReadings, zero, ExpiredBySeconds, expired, later] <;> omega

/-- The nested loops count the readings that find their block expired, over
all groups' blocks in the loops' order. -/
theorem tallyGroups_countExpired (groups : List Group) (tally : Tally) (reads : Nat) :
    let after := tallyGroups (countExpired retentionByResolution clock) (tally, reads) groups
    let readings := clockReadings retentionByResolution clock reads
      (groups.flatMap (·.metasByMinTime))
    after.1.total = tally.total + (readings.filter (Expired retentionByResolution)).length ∧
      after.2 = reads + readings.length := by
  induction groups generalizing tally reads with
  | nil => simp [tallyGroups, clockReadings]
  | cons group rest induction =>
    obtain ⟨counted, readings⟩ :=
      foldl_countExpired retentionByResolution clock group.key group.metasByMinTime tally reads
    have later := induction
      (group.metasByMinTime.foldl (countExpired retentionByResolution clock group.key) (tally, reads)).1
      (group.metasByMinTime.foldl (countExpired retentionByResolution clock group.key) (tally, reads)).2
    simp only [tallyGroups, List.foldl_cons] at later ⊢
    rw [later.1, later.2, counted, readings]
    simp only [List.flatMap_cons, clockReadings_append, List.filter_append, List.length_append]
    omega

end Retention

/-- For a block at or after the epoch, cutting `MaxTime` to whole seconds
moves it at most one second earlier: the calculator counts every block past
its retention, and others only in the last second before their expiry. -/
theorem expiredBySeconds_of_pastRetention {retention now : Int} {m : Meta}
    (past : PastRetention retention now m) (afterEpoch : 0 ≤ m.maxTime.toInt) :
    ExpiredBySeconds retention now m := by
  obtain ⟨nonzero, before⟩ := past
  refine ⟨nonzero, ?_⟩
  rw [Int.tdiv_eq_ediv afterEpoch (by decide)]
  omega

theorem pastRetention_of_expiredBySeconds {retention now : Int} {m : Meta}
    (expired : ExpiredBySeconds retention now m) (afterEpoch : 0 ≤ m.maxTime.toInt) :
    PastRetention retention (now + 1000000000) m := by
  obtain ⟨nonzero, before⟩ := expired
  refine ⟨nonzero, ?_⟩
  rw [Int.tdiv_eq_ediv afterEpoch (by decide)] at before
  omega

/-- For every retention map, clock and list of groups, the retention
calculator sets the gauge to the number of blocks, counted over all groups,
whose resolution has a non-zero retention and whose `MaxTime`, cut to whole
seconds, plus that retention is before the clock reading taken for that
block.  For a block at or after the epoch, that test holds whenever
`MaxTime + retention` is before the reading, and otherwise only within the
last second before it. -/
theorem retention_progress_counts (retentionByResolution : Int → Int) (clock : Nat → Int)
    (groups : List Group) :
    let readings := clockReadings retentionByResolution clock 0 (groups.flatMap (·.metasByMinTime))
    retentionProgressCalculate retentionByResolution clock groups =
        (readings.filter fun reading =>
          decide (ExpiredBySeconds (retentionByResolution reading.1.thanos.resolution.toInt)
            reading.2 reading.1)).length ∧
      ∀ m now, (m, now) ∈ readings → 0 ≤ m.maxTime.toInt →
        (PastRetention (retentionByResolution m.thanos.resolution.toInt) now m →
          ExpiredBySeconds (retentionByResolution m.thanos.resolution.toInt) now m) ∧
        (ExpiredBySeconds (retentionByResolution m.thanos.resolution.toInt) now m →
          PastRetention (retentionByResolution m.thanos.resolution.toInt) (now + 1000000000) m) :=
  ⟨by simpa [retentionProgressCalculate] using
      (tallyGroups_countExpired retentionByResolution clock groups [] 0).1,
    fun _ _ _ afterEpoch =>
      ⟨(expiredBySeconds_of_pastRetention · afterEpoch),
        (pastRetention_of_expiredBySeconds · afterEpoch)⟩⟩

/-- A block at `MaxTime` 1.5 s with a retention of one second is counted when
the clock reads 2.2 s, 0.3 s before its exact expiry at 2.5 s. -/
theorem retention_progress_counts_block_before_expiry :
    retentionProgressCalculate (fun _ => 1000000000) (fun _ => 2200000000)
        [labelFreeGroup [sourceBlock 1 0 1500]] = 1 ∧
      ¬ PastRetention 1000000000 2200000000 (sourceBlock 1 0 1500) := by
  decide

end Thanos.Compact.ProgressCalculators
