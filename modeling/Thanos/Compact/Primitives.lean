import Mathlib.Data.List.Sort
import Mathlib.Data.String.Basic
import Mathlib.Logic.Relation

/-!
# Go primitives of the compaction package

The package compares block times as Go `int64` values, names blocks by ULID
and orders slices with `sort.Slice`.  This module fixes how the rest of the
development represents the three.

`Int64` is the integer a Go `int64` holds together with its range, so that no
value outside `[math.MinInt64, math.MaxInt64]` can be built; `Int64.ofInt` is
Go's conversion `int64(x)`, which wraps modulo `2^64`.  A ULID is the number
its sixteen bytes spell big-endian, so the byte-wise `ulid.Compare` is the
order of numbers.

`SortSlice` is `sort.Slice` with a `less` that compares one key.  Its result is
a permutation of the input ordered by the key; how it orders equal keys is
left open, as the Go documentation leaves it.  Go's implementation sorts
slices of at most twelve elements by insertion, which keeps equal keys in
input order: `insertionSortSlice` is that behaviour.

Goroutines are modelled as a step relation whose runs are the interleavings
the scheduler may choose.  `maximal_run_stops` is what every such model uses
to show that a call returns: a schedule that moves whenever some goroutine can
move stops, when no run goes on forever.
-/

namespace Thanos.Compact.Primitives

/-- A Go `int64`, as the integer it holds. -/
structure Int64 where
  toInt : Int
  min_le : -9223372036854775808 ≤ toInt
  le_max : toInt ≤ 9223372036854775807
deriving DecidableEq

/-- Go's conversion `int64(x)`: two's complement wrap-around modulo `2^64`. -/
def Int64.ofInt (value : Int) : Int64 where
  toInt := (value + 9223372036854775808) % 18446744073709551616 - 9223372036854775808
  min_le := by omega
  le_max := by omega

/-- `math.MinInt64`. -/
def Int64.minValue : Int64 := ⟨-9223372036854775808, by omega, by omega⟩

/-- `math.MaxInt64`. -/
def Int64.maxValue : Int64 := ⟨9223372036854775807, by omega, by omega⟩

@[simp]
theorem Int64.minValue_toInt : Int64.minValue.toInt = -9223372036854775808 := rfl

@[simp]
theorem Int64.maxValue_toInt : Int64.maxValue.toInt = 9223372036854775807 := rfl

/-- Two `Int64` values are equal when they hold the same integer. -/
theorem Int64.ext {left right : Int64} (equal : left.toInt = right.toInt) :
    left = right := by
  cases left
  cases right
  cases equal
  rfl

/-- `Int64.ofInt` keeps every integer already in range. -/
theorem Int64.ofInt_toInt (value : Int64) : (Int64.ofInt value.toInt) = value := by
  apply Int64.ext
  have lower := value.min_le
  have upper := value.le_max
  simp only [Int64.ofInt]
  omega

/-- `Int64.ofInt` keeps every integer in the range of `int64`. -/
theorem Int64.toInt_ofInt_of_range {value : Int} (lower : -9223372036854775808 ≤ value)
    (upper : value ≤ 9223372036854775807) : (Int64.ofInt value).toInt = value := by
  simp only [Int64.ofInt]
  omega

/--
A ULID as the number its sixteen bytes spell big-endian: the byte-wise
comparison `ulid.Compare` is the order of these numbers.
-/
abbrev Ulid := Nat

/--
`sort.Slice` with a `less` function `key i < key j`: a permutation of the
input ordered by the key, with equal keys in an order the contract leaves open.
-/
structure SortSlice where
  sortBy : {α β : Type} → [LinearOrder β] → (α → β) → List α → List α
  sortBy_perm :
    ∀ {α β : Type} [LinearOrder β] (key : α → β) (items : List α),
      (sortBy key items).Perm items
  sortBy_sorted :
    ∀ {α β : Type} [LinearOrder β] (key : α → β) (items : List α),
      (sortBy key items).Sorted (fun left right => key left ≤ key right)

/-- Ordering by a key is total, as `List.sorted_insertionSort` needs. -/
instance keyLe_total {α β : Type} [LinearOrder β] (key : α → β) :
    IsTotal α (fun left right => key left ≤ key right) :=
  ⟨fun left right => le_total (key left) (key right)⟩

/-- Ordering by a key is transitive, as `List.sorted_insertionSort` needs. -/
instance keyLe_trans {α β : Type} [LinearOrder β] (key : α → β) :
    IsTrans α (fun left right => key left ≤ key right) :=
  ⟨fun _ _ _ => le_trans⟩

/-- Go's `sort.Slice` on short slices: a stable insertion sort. -/
def insertionSortSlice : SortSlice where
  sortBy key items := items.insertionSort (fun left right => key left ≤ key right)
  sortBy_perm _ items := List.perm_insertionSort _ items
  sortBy_sorted _ items := List.sorted_insertionSort _ items

/-- Sorting keeps the members of a list. -/
@[simp]
theorem SortSlice.mem_sortBy (sortSlice : SortSlice) {α β : Type} [LinearOrder β]
    (key : α → β) (items : List α) (item : α) :
    item ∈ sortSlice.sortBy key items ↔ item ∈ items :=
  (sortSlice.sortBy_perm key items).mem_iff

/-- Sorting keeps the length of a list. -/
@[simp]
theorem SortSlice.length_sortBy (sortSlice : SortSlice) {α β : Type} [LinearOrder β]
    (key : α → β) (items : List α) :
    (sortSlice.sortBy key items).length = items.length :=
  (sortSlice.sortBy_perm key items).length_eq

/-- A run that takes a step whenever one is possible, by a step relation with
no infinite run, reaches a state that cannot move, through steps taken one by
one from its first state. -/
theorem maximal_run_stops {α : Type} {step : α → α → Prop}
    (wf : WellFounded fun later earlier => step earlier later) (run : ℕ → α)
    (steps : ∀ k, (∃ next, step (run k) next) → step (run k) (run (k + 1))) :
    ∃ k, (¬ ∃ next, step (run k) next) ∧ Relation.ReflTransGen step (run 0) (run k) := by
  suffices ∀ a k, run k = a → Relation.ReflTransGen step (run 0) (run k) →
      ∃ j, (¬ ∃ next, step (run j) next) ∧ Relation.ReflTransGen step (run 0) (run j) from
    this _ 0 rfl .refl
  intro a
  induction a using wf.induction with
  | h a moreSteps =>
    rintro k rfl reached
    by_cases moving : ∃ next, step (run k) next
    · exact moreSteps _ (steps k moving) (k + 1) rfl (reached.tail (steps k moving))
    · exact ⟨k, moving, reached⟩

end Thanos.Compact.Primitives
