import Thanos.Compact.CompactionGroup

/-!
# The collaborators of a group compaction

`Group.compact` drives a planner, a low-level compactor, a deletion checker, a
lifecycle callback, the object-storage bucket and the local disk.  Each of
them is taken here as an oracle: a function of the trace of the calls made so
far, so that it may answer differently on every call and any pattern of
failures is one choice of the oracles.  The trace records every call with the
answer it got; properties of a compaction are stated over it.

The download fan-out of `errgroup` is a list of goroutines that finish in some
order; `FetchSchedule` chooses that order, any permutation of the plan.  A
collaborator may also panic; `Backend.panics` says which calls do.  Local
directories are named by the ULID of their block, which is all the package
does with paths.

`block.HealthStats` is outside the repository; it is modelled from the spec as
its five diagnoses.  `DefaultCompactionLifecycleCallback` and
`DefaultBlockDeletableChecker` are the package's own and are translated.
-/

namespace Thanos.Compact.Collaborators

open Thanos.Compact.Primitives
open Thanos.Compact.Errors
open Thanos.Compact.Metadata
open Thanos.Compact.CompactionGroup

/-- Equality of `Except` values is decidable, so that runs can be evaluated. -/
instance exceptDecidableEq {ε α : Type} [DecidableEq ε] [DecidableEq α] :
    DecidableEq (Except ε α)
  | .error a, .error b => decidable_of_iff (a = b) (by simp)
  | .ok a, .ok b => decidable_of_iff (a = b) (by simp)
  | .error _, .ok _ => isFalse nofun
  | .ok _, .error _ => isFalse nofun

/-- Modelled from the spec: `block.HealthStats` is outside the repository; the
package reads its five diagnoses, each nil or an error. -/
structure HealthStats where
  criticalErr : Option Error
  outOfOrderChunksErr : Option Error
  issue347OutsideChunksErr : Option Error
  outOfOrderLabelsErr : Option Error
  anyErr : Option Error
deriving DecidableEq

/-- One call of a collaborator during a compaction, with its answer. -/
inductive Event where
  | mkdirAll (result : Option Error)
  | plan (metasByMinTime : List Meta) (result : Except Error (List Meta))
  | preCompactionCallback (toCompact : List Meta) (result : Option Error)
  | download (id : Ulid) (result : Option Error)
  | gatherIndexHealthStats (id : Ulid) (result : Except Error HealthStats)
  | getBlockPopulator (result : Option Error)
  | compact (dirs : List Ulid) (result : Except Error (List Ulid))
  | removeTombstones (id : Ulid) (result : Option Error)
  | readFromDir (id : Ulid) (result : Except Error Meta)
  | injectThanos (id : Ulid) (result : Except Error Meta)
  | upload (id : Ulid) (result : Option Error)
  | postCompactionCallback (id : Ulid) (result : Option Error)
  | removeAll (id : Ulid) (result : Option Error)
  | canDelete (id : Ulid) (result : Bool)
  | markForDeletion (id : Ulid) (details : String) (result : Option Error)
  | removeGroupDir (result : Option Error)
  | syncMetas (result : Option Error)
  | garbageCollect (result : Option Error)
  | repairIssue347 (err : Error) (result : Option Error)
  | markForNoCompact (id : Ulid) (result : Option Error)
deriving DecidableEq

/-- The calls made so far, oldest first. -/
abbrev Trace := List Event

/-- `Planner.Plan`. -/
structure Planner where
  plan : Trace → List Meta → Except Error (List Meta)

/-- `Compactor.CompactWithBlockPopulator`, given the directories of the plan. -/
structure Compactor where
  compactWithBlockPopulator : Trace → List Ulid → Except Error (List Ulid)

/-- `BlockDeletableChecker`. -/
structure BlockDeletableChecker where
  canDelete : Trace → Group → Ulid → Bool

/-- `DefaultBlockDeletableChecker`: every block may be deleted. -/
def defaultBlockDeletableChecker : BlockDeletableChecker :=
  ⟨fun _ _ _ => true⟩

/-- `CompactionLifecycleCallback`; `GetBlockPopulator` is reduced to its error. -/
structure CompactionLifecycleCallback where
  preCompactionCallback : Trace → Group → List Meta → Option Error
  postCompactionCallback : Trace → Group → Ulid → Option Error
  getBlockPopulator : Trace → Group → Option Error

/-! ## The default lifecycle callback -/

/-- The loop of `DefaultCompactionLifecycleCallback.PreCompactionCallback` over
the sources of the plan, with the set of sources seen so far. -/
def checkSources (enableVerticalCompaction : Bool) (plan : List Ulid) :
    List Ulid → List Ulid → Option Error
  | _, [] => none
  | uniqueSources, source :: rest =>
      if source ∈ uniqueSources ∧ !enableVerticalCompaction then
        some (halt (.new s!"overlapping sources detected for plan {plan}"))
      else checkSources enableVerticalCompaction plan (source :: uniqueSources) rest

/-- The check passes exactly when vertical compaction is on, or the sources
are distinct and none was seen before. -/
theorem checkSources_eq_none_iff (enableVerticalCompaction : Bool) (plan : List Ulid)
    (uniqueSources sources : List Ulid) :
    checkSources enableVerticalCompaction plan uniqueSources sources = none ↔
      enableVerticalCompaction = true ∨
        (sources.Nodup ∧ ∀ source ∈ sources, source ∉ uniqueSources) := by
  induction sources generalizing uniqueSources with
  | nil => simp [checkSources]
  | cons source rest ih =>
    cases enableVerticalCompaction with
    | true => simp [checkSources, ih]
    | false =>
      by_cases seen : source ∈ uniqueSources
      · simp [checkSources, seen]
      · simp only [checkSources, seen, false_and, if_false, ih, List.nodup_cons, List.mem_cons,
          Bool.false_eq_true, false_or]
        constructor
        · rintro ⟨nodup, fresh⟩
          refine ⟨⟨fun again => fresh source again (.inl rfl), nodup⟩, ?_⟩
          rintro other (rfl | later)
          exacts [seen, fun mem => fresh other later (.inr mem)]
        · rintro ⟨⟨absent, nodup⟩, fresh⟩
          refine ⟨nodup, fun other later => ?_⟩
          rintro (rfl | mem)
          exacts [absent later, fresh other (.inr later) mem]

/-- `DefaultCompactionLifecycleCallback.PreCompactionCallback`; the plan in
the message is printed by the ULIDs of its blocks. -/
def defaultPreCompactionCallback (cg : Group) (toCompactBlocks : List Meta) : Option Error :=
  checkSources cg.enableVerticalCompaction (toCompactBlocks.map (·.ulid)) []
    (toCompactBlocks.flatMap (·.sources))

theorem defaultPreCompactionCallback_eq_none_iff (cg : Group) (toCompactBlocks : List Meta) :
    defaultPreCompactionCallback cg toCompactBlocks = none ↔
      cg.enableVerticalCompaction = true ∨ (toCompactBlocks.flatMap (·.sources)).Nodup := by
  simp [defaultPreCompactionCallback, checkSources_eq_none_iff]

/-- `DefaultCompactionLifecycleCallback`. -/
def defaultCompactionLifecycleCallback : CompactionLifecycleCallback where
  preCompactionCallback _ := defaultPreCompactionCallback
  postCompactionCallback _ _ _ := none
  getBlockPopulator _ _ := none

/-! ## Storage and scheduling -/

/-- The bucket, the local disk and the index reader as the compaction uses them. -/
structure BlockIO where
  mkdirAll : Trace → Option Error
  download : Trace → Ulid → Option Error
  gatherIndexHealthStats : Trace → Ulid → Int64 → Int64 → Except Error HealthStats
  removeTombstones : Trace → Ulid → Option Error
  readFromDir : Trace → Ulid → Except Error Meta
  injectThanos : Trace → Ulid → Thanos → Except Error Meta
  upload : Trace → Ulid → Option Error
  removeAll : Trace → Ulid → Option Error
  markForDeletion : Trace → Ulid → String → Option Error
  removeGroupDir : Trace → Option Error

/-- The order in which the download goroutines of a plan finish. -/
structure FetchSchedule where
  order : Trace → List Meta → List Meta
  order_perm : ∀ trace toCompact, (order trace toCompact).Perm toCompact

/-- Everything `Group.Compact` runs against.  `panics trace ev` says whether
the call that would be recorded as `ev` after the calls `trace` panics instead
of returning, and with what value; by default no call panics. -/
structure Backend where
  sortSlice : SortSlice
  planner : Planner
  comp : Compactor
  blockDeletableChecker : BlockDeletableChecker
  compactionLifecycleCallback : CompactionLifecycleCallback
  io : BlockIO
  schedule : FetchSchedule
  panics : Trace → Event → Option String := fun _ _ => none

end Thanos.Compact.Collaborators
