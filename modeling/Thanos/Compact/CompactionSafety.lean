import Thanos.Compact.CompactionPhases

/-!
# Safety of a group compaction

What `Group.compact` guarantees over every run, whatever its collaborators
answer: which plans reach the low-level compactor, and which blocks it marks
for deletion and when.

The low-level compactor is only reached through the overlap check of the whole
group and the pre-compaction callback; with vertical compaction off and the
default callback, a plan drawn from the group is then disjoint in time and its
blocks share no source.  A planned block is marked for deletion only once the
compactor returned nothing and the block has no sample, or once every output
block was uploaded and passed its post-compaction callback; after a successful
compaction with outputs every planned block the checker allows is marked.
-/

namespace Thanos.Compact.CompactionSafety

open Thanos.Compact.Primitives
open Thanos.Compact.Errors
open Thanos.Compact.Metadata
open Thanos.Compact.CompactionGroup
open Thanos.Compact.Collaborators
open Thanos.Compact.GroupCompaction
open Thanos.Compact.CompactionPhases

/-! ## Plans that reach the compactor -/

/-- With vertical compaction off and the default lifecycle callback, the
low-level compactor only receives plans drawn from the group whose blocks are
disjoint in time and share no source; with vertical compaction on, the default
callback accepts repeated sources. -/
theorem compact_merges_only_disjoint_distinct_sources (backend : Backend) (cg : Group)
    (trace : Trace) :
    (backend.compactionLifecycleCallback = defaultCompactionLifecycleCallback →
      cg.enableVerticalCompaction = false →
      ∀ added toCompact dirs result,
        (Group.compact backend cg trace).1 = trace ++ added →
        .plan cg.metasByMinTime (.ok toCompact) ∈ added →
        toCompact.Sublist cg.metasByMinTime →
        .compact dirs result ∈ added →
        dirs = toCompact.map (·.ulid) ∧ PairwiseDisjoint (toCompact.map (·.toBlockMeta)) ∧
          (toCompact.flatMap (·.sources)).Nodup) ∧
    ∀ toCompact, cg.enableVerticalCompaction = true →
      defaultCompactionLifecycleCallback.preCompactionCallback trace cg toCompact = none := by
  refine ⟨fun default vertical added toCompact dirs result ran planned drawn merged => ?_,
    fun toCompact vertical => (defaultPreCompactionCallback_eq_none_iff cg toCompact).mpr (.inl vertical)⟩
  have run := compact_run backend cg trace
  generalize Group.compact backend cg trace = outcome at run ran
  rcases run with _ | _ | _ | @⟨planned', _, checked, _, _, planRun⟩
  · simp at ran
    simp [ran] at merged
  · simp only [List.append_cancel_left_eq] at ran
    simp [← ran] at merged
  · simp only [List.append_cancel_left_eq] at ran
    simp [← ran] at merged
  obtain ⟨rest, extends_, calls⟩ := planRun.adds backend cg
  rw [extends_, List.append_assoc, List.append_cancel_left_eq] at ran
  subst ran
  have merged' : .compact dirs result ∈ rest := by simpa using merged
  have same : toCompact = planned' := by
    have : toCompact = planned' ∨ .plan cg.metasByMinTime (.ok toCompact) ∈ rest := by
      simpa using planned
    exact this.resolve_right fun later => PlanCall.not_plan (calls _ later)
  subst same
  have accepted := planRun.checked_of_compact backend cg extends_ merged'
  rw [default] at accepted
  refine ⟨calls _ merged', ?_, ?_⟩
  · have whole := (Group.areBlocksOverlapping_none_nil backend.sortSlice cg).mp
      (checked.resolve_left (by simp [vertical]))
    exact whole.sublist (drawn.map _)
  · simpa [vertical] using (defaultPreCompactionCallback_eq_none_iff cg toCompact).mp accepted

/-! ## Marking blocks for deletion -/

/-- What justifies marking the block `id` for deletion, among the calls
`before` the mark: a plan holding a block with that ULID, and either a merge of
the plan that returned no block while that block has no sample, or a merge
that returned output blocks which were all uploaded and passed their
post-compaction callback. -/
def MarkJustified (cg : Group) (before : Trace) (id : Ulid) : Prop :=
  ∃ toCompact, .plan cg.metasByMinTime (.ok toCompact) ∈ before ∧
    ∃ meta ∈ toCompact, meta.ulid = id ∧
      ((.compact (toCompact.map (·.ulid)) (.ok []) ∈ before ∧ meta.numSamples = 0) ∨
        ∃ compIDs, compIDs ≠ [] ∧ .compact (toCompact.map (·.ulid)) (.ok compIDs) ∈ before ∧
          ∀ compID ∈ compIDs,
            .upload compID none ∈ before ∧ .postCompactionCallback compID none ∈ before)

/-- Every mark for deletion among `events` is justified by the calls before it. -/
def MarksJustified (cg : Group) (events : Trace) : Prop :=
  ∀ before id details result after,
    events = before ++ .markForDeletion id details result :: after → MarkJustified cg before id

theorem MarksJustified.of_not_mark {cg : Group} {events : Trace}
    (unmarked : ∀ id details result, .markForDeletion id details result ∉ events) :
    MarksJustified cg events := by
  intro before id details result after split
  exact (unmarked id details result (by simp [split])).elim

theorem MarksJustified.append {cg : Group} {front back : Trace} (first : MarksJustified cg front)
    (second : ∀ before id details result after,
      back = before ++ .markForDeletion id details result :: after →
        MarkJustified cg (front ++ before) id) :
    MarksJustified cg (front ++ back) := by
  intro before id details result after split
  rcases List.append_eq_append_iff.mp split with
    ⟨middle, rfl, rest⟩ | ⟨_ | ⟨ev, middle⟩, front_eq, cons_eq⟩
  · exact second middle id details result after rest
  · simp only [List.append_nil, List.nil_append] at front_eq cons_eq
    subst front_eq
    simpa using second [] id details result after cons_eq.symm
  · simp only [List.cons_append, List.cons.injEq] at cons_eq
    obtain ⟨rfl, rfl⟩ := cons_eq
    exact first before id details result middle front_eq

theorem MarkJustified.mono {cg : Group} {before before' : Trace} {id : Ulid} (subset : before ⊆ before')
    (justified : MarkJustified cg before id) : MarkJustified cg before' id := by
  obtain ⟨toCompact, planned, meta, member, named, merged⟩ := justified
  refine ⟨toCompact, subset planned, meta, member, named, merged.imp (And.imp_left (subset ·)) ?_⟩
  rintro ⟨compIDs, produced, compacted, published⟩
  exact ⟨compIDs, produced, subset compacted, fun compID mem => (published compID mem).imp (subset ·) (subset ·)⟩

theorem MarksJustified.append_unmarked {cg : Group} {front back : Trace} (marks : MarksJustified cg front)
    (unmarked : ∀ ev ∈ back, ∀ id details result, ev ≠ .markForDeletion id details result) :
    MarksJustified cg (front ++ back) :=
  marks.append fun _ id details result _ split => (unmarked _ (by simp [split]) id details result rfl).elim

/-- A mark justified by the calls before it stays so in every prefix. -/
theorem MarksJustified.of_append {cg : Group} {front back : Trace}
    (marks : MarksJustified cg (front ++ back)) : MarksJustified cg front :=
  fun before id details result after split =>
    marks before id details result (after ++ back) (by rw [split]; simp)

section Marks

variable (backend : Backend) (cg : Group)

/-- The marks of the deletion of empty sources are justified. -/
theorem marksJustified_of_empty {trace verified merged : Trace} {toCompact : List Meta}
    {result : Option Error}
    (fetched : verifyBlocks backend cg
      (trace ++ [.plan cg.metasByMinTime (.ok toCompact)] ++ [.preCompactionCallback toCompact none])
      (backend.schedule.order
        (trace ++ [.plan cg.metasByMinTime (.ok toCompact)] ++ [.preCompactionCallback toCompact none])
        toCompact) = (verified, result))
    (compacted : mergeBlocks backend cg verified (toCompact.map (·.ulid)) = (merged, .ok [])) :
    ∃ added, deleteEmptySources backend cg merged toCompact = trace ++ added ∧
      MarksJustified cg added := by
  obtain ⟨fetches, rfl, checks⟩ := merged_segments backend cg fetched compacted
  obtain ⟨deletions, extends_, kinds⟩ := deleteEmptySources_adds backend cg
    (trace ++ [.plan cg.metasByMinTime (.ok toCompact)] ++ .preCompactionCallback toCompact none ::
      fetches ++ [.getBlockPopulator none, .compact (toCompact.map (·.ulid)) (.ok [])]) toCompact
  refine ⟨.plan cg.metasByMinTime (.ok toCompact) :: .preCompactionCallback toCompact none ::
      fetches ++ [.getBlockPopulator none, .compact (toCompact.map (·.ulid)) (.ok [])] ++ deletions,
    by rw [extends_]; simp, .append (.of_not_mark fun id details result mem => ?_)
      fun before id details result after split => ?_⟩
  · simp only [List.cons_append, List.mem_cons, reduceCtorEq, List.mem_append, List.mem_singleton,
      List.not_mem_nil, false_or, or_false] at mem
    exact checks _ mem
  · have deletion := kinds (.markForDeletion id details result) (by rw [split]; simp)
    obtain ⟨meta, member, rfl⟩ := List.mem_map.mp deletion
    obtain ⟨member, empty⟩ := List.mem_filter.mp member
    exact ⟨toCompact, by simp, meta, member, rfl, .inl ⟨by simp, by simpa using empty⟩⟩

/-- The marks of the marking loop, which runs once every output block was
uploaded, are justified. -/
theorem marksJustified_of_marking {trace verified merged uploaded marked : Trace}
    {toCompact : List Meta} {compIDs : List Ulid} {fetchResult markResult : Option Error}
    (fetched : verifyBlocks backend cg
      (trace ++ [.plan cg.metasByMinTime (.ok toCompact)] ++ [.preCompactionCallback toCompact none])
      (backend.schedule.order
        (trace ++ [.plan cg.metasByMinTime (.ok toCompact)] ++ [.preCompactionCallback toCompact none])
        toCompact) = (verified, fetchResult))
    (compacted : mergeBlocks backend cg verified (toCompact.map (·.ulid)) = (merged, .ok compIDs))
    (produced : compIDs ≠ [])
    (published : uploadCompactedBlocks backend cg toCompact merged compIDs = (uploaded, none))
    (deleted : markSourcesForDeletion backend cg uploaded toCompact = (marked, markResult)) :
    ∃ added, marked = trace ++ added ∧ MarksJustified cg added := by
  obtain ⟨fetches, rfl, checks⟩ := merged_segments backend cg fetched compacted
  obtain ⟨uploads, rfl, complete⟩ := uploadCompactedBlocks_eq_none backend cg published
  obtain ⟨outputs, same, outputCalls⟩ := uploadCompactedBlocks_adds backend cg toCompact
    (trace ++ [.plan cg.metasByMinTime (.ok toCompact)] ++ .preCompactionCallback toCompact none ::
      fetches ++ [.getBlockPopulator none, .compact (toCompact.map (·.ulid)) (.ok compIDs)]) compIDs
  rw [published, List.append_cancel_left_eq] at same
  subst same
  obtain ⟨deletions, extends_, kinds⟩ := markSourcesForDeletion_adds backend cg
    (trace ++ [.plan cg.metasByMinTime (.ok toCompact)] ++ .preCompactionCallback toCompact none ::
      fetches ++ [.getBlockPopulator none, .compact (toCompact.map (·.ulid)) (.ok compIDs)] ++ uploads)
    toCompact
  rw [deleted] at extends_
  dsimp only at extends_
  subst extends_
  refine ⟨.plan cg.metasByMinTime (.ok toCompact) :: .preCompactionCallback toCompact none ::
      fetches ++ [.getBlockPopulator none, .compact (toCompact.map (·.ulid)) (.ok compIDs)] ++
        uploads ++ deletions,
    by simp, .append (.of_not_mark fun id details result mem => ?_)
      fun before id details result after split => ?_⟩
  · simp only [List.cons_append, List.mem_cons, reduceCtorEq, List.mem_append, List.mem_singleton,
      List.not_mem_nil, false_or, or_false] at mem
    exact mem.elim (checks _) (outputCalls _)
  · have deletion := kinds (.markForDeletion id details result) (by rw [split]; simp)
    obtain ⟨meta, member, rfl⟩ := List.mem_map.mp deletion
    exact ⟨toCompact, by simp, meta, member, rfl, .inr ⟨compIDs, produced, by simp,
      fun compID mem => ⟨by simp [(complete compID mem).1], by simp [(complete compID mem).2]⟩⟩⟩

/-- Every mark made by a run from a plan is justified. -/
theorem planRun_marksJustified {toCompact : List Meta} {trace : Trace}
    {run : Trace × Except Error (Bool × List Ulid)}
    (ran : PlanRun backend cg toCompact (trace ++ [.plan cg.metasByMinTime (.ok toCompact)]) run) :
    ∃ added, run.1 = trace ++ added ∧ MarksJustified cg added := by
  cases ran with
  | refused => exact ⟨_, List.append_assoc _ _ _, .of_not_mark (by simp)⟩
  | unverified _ fetched =>
    obtain ⟨fetches, rfl, checks⟩ := fetched_segments backend cg fetched
    refine ⟨.plan cg.metasByMinTime (.ok toCompact) :: .preCompactionCallback toCompact none ::
      fetches, by simp, .of_not_mark fun id details result mem => ?_⟩
    simp only [List.mem_cons, reduceCtorEq, false_or] at mem
    exact checks _ mem
  | unmerged _ fetched failed =>
    obtain ⟨fetches, rfl, checks⟩ := fetched_segments backend cg fetched
    have unmarked : ∀ {tail : Trace}, (∀ ev ∈ tail, ∀ id details result,
        ev ≠ .markForDeletion id details result) → ∀ id details result,
        .markForDeletion id details result ∉ .plan cg.metasByMinTime (.ok toCompact) ::
          .preCompactionCallback toCompact none :: fetches ++ tail := by
      intro tail clean id details result mem
      simp only [List.cons_append, List.mem_cons, List.mem_append, reduceCtorEq, false_or] at mem
      exact mem.elim (checks _) fun mem => clean _ mem id details result rfl
    rcases mergeBlocks_cases backend cg _ (toCompact.map (·.ulid)) with
      ⟨failure, once⟩ | ⟨failure, once⟩ | ⟨_, once⟩ <;> rw [failed, Prod.mk.injEq] at once
    · exact ⟨_, by rw [once.1]; simp; rfl, .of_not_mark (unmarked (by simp))⟩
    · exact ⟨_, by rw [once.1]; simp; rfl, .of_not_mark (unmarked (by simp))⟩
    · cases once.2
  | empty _ fetched compacted => exact marksJustified_of_empty backend cg fetched compacted
  | unuploaded _ fetched compacted _ failed =>
    obtain ⟨fetches, rfl, checks⟩ := merged_segments backend cg fetched compacted
    obtain ⟨outputs, extends_, outputCalls⟩ := uploadCompactedBlocks_adds backend cg toCompact _ _
    rw [failed] at extends_
    dsimp only at extends_
    subst extends_
    refine ⟨_, by simp; rfl, .of_not_mark fun id details result mem => ?_⟩
    simp only [List.cons_append, List.mem_cons, List.mem_append, reduceCtorEq, List.mem_singleton,
      List.not_mem_nil, false_or, or_false] at mem
    exact mem.elim (checks _) (outputCalls _)
  | unmarked _ fetched compacted produced published deleted =>
    exact marksJustified_of_marking backend cg fetched compacted produced published deleted
  | succeeded _ fetched compacted produced published deleted =>
    exact marksJustified_of_marking backend cg fetched compacted produced published deleted

theorem compact_marksJustified (trace : Trace) :
    ∃ added, (Group.compact backend cg trace).1 = trace ++ added ∧ MarksJustified cg added := by
  have run := compact_run backend cg trace
  generalize Group.compact backend cg trace = outcome at run ⊢
  rcases run with _ | _ | _ | ⟨_, _, _, planRun⟩
  · exact ⟨[], by simp, .of_not_mark (by simp)⟩
  · exact ⟨_, rfl, .of_not_mark (by simp)⟩
  · exact ⟨_, rfl, .of_not_mark (by simp)⟩
  · exact planRun_marksJustified backend cg planRun

end Marks

/-- `Group.compact` marks a block for deletion only when the block was planned
and either the compactor returned no block and the block has no sample, or
every output block was uploaded and passed its post-compaction callback; and a
successful compaction with output blocks asked the checker about every planned
block and marked each one the checker allowed. -/
theorem compact_marks_only_justified_sources (backend : Backend) (cg : Group) (trace : Trace) :
    (∀ before id details result after,
      (Group.compact backend cg trace).1 =
        trace ++ before ++ .markForDeletion id details result :: after →
      MarkJustified cg before id) ∧
    ∀ added ids, Group.compact backend cg trace = (trace ++ added, .ok (true, ids)) → ids ≠ [] →
      ∃ toCompact, .plan cg.metasByMinTime (.ok toCompact) ∈ added ∧ ∀ meta ∈ toCompact,
        ∃ allowed, .canDelete meta.ulid allowed ∈ added ∧
          (allowed = true → .markForDeletion meta.ulid "source of compacted block" none ∈ added) := by
  have run := compact_run backend cg trace
  generalize Group.compact backend cg trace = outcome at run ⊢
  constructor
  · suffices justified : ∃ added, outcome.1 = trace ++ added ∧ MarksJustified cg added by
      obtain ⟨added, extends_, marks⟩ := justified
      intro before id details result after split
      rw [extends_, List.append_assoc, List.append_cancel_left_eq] at split
      exact marks before id details result after split
    rcases run with _ | _ | _ | ⟨_, _, _, planRun⟩
    · exact ⟨[], by simp, .of_not_mark (by simp)⟩
    · exact ⟨_, rfl, .of_not_mark (by simp)⟩
    · exact ⟨_, rfl, .of_not_mark (by simp)⟩
    · exact planRun_marksJustified backend cg planRun
  · intro added ids ran produced
    rcases run with _ | _ | _ | @⟨toCompact, _, _, _, _, planRun⟩
    · simp at ran
    · simp at ran
    · simp at ran
    cases planRun with
    | refused | unverified | unmerged | unuploaded | unmarked => simp at ran
    | empty => exact (produced (by simp at ran; exact ran.2)).elim
    | succeeded _ fetched compacted _ published deleted =>
      rw [Prod.mk.injEq] at ran
      obtain ⟨fetches, rfl, -⟩ := merged_segments backend cg fetched compacted
      obtain ⟨uploads, rfl, -⟩ := uploadCompactedBlocks_eq_none backend cg published
      obtain ⟨deletions, rfl, marked⟩ := markSourcesForDeletion_eq_none backend cg deleted
      simp only [List.append_assoc, List.cons_append, List.singleton_append,
        List.append_cancel_left_eq] at ran
      rw [← ran.1]
      exact ⟨toCompact, by simp, fun meta member => (marked meta member).imp fun allowed asked =>
        ⟨by simp [asked.1], fun yes => by simp [asked.2 yes]⟩⟩

/-! ## Output blocks are not checked against each other -/

/-- A block of the group at labels `{}` and resolution 0, with one sample. -/
def sampleMeta (id : Ulid) (minTime maxTime : Int) : Meta :=
  ⟨⟨id, Int64.ofInt minTime, Int64.ofInt maxTime, 1, 1, [id]⟩, ⟨[], Int64.ofInt 0⟩⟩

/-- The group at labels `{}` and resolution 0 holding `metas`, vertical compaction off. -/
def sampleGroup (metas : List Meta) : Group :=
  ⟨"0@{}", [], Int64.ofInt 0, metas, false, false, 1, 1⟩

/-- Collaborators that plan the whole group, merge it into `outputs`, and
answer every other call with success, except the removal of the tombstones of
the output blocks in `brokenTombstones`. -/
def sampleBackend (outputs : List Meta) (brokenTombstones : List Ulid) : Backend where
  sortSlice := insertionSortSlice
  planner := ⟨fun _ metas => .ok metas⟩
  comp := ⟨fun _ _ => .ok (outputs.map (·.ulid))⟩
  blockDeletableChecker := defaultBlockDeletableChecker
  compactionLifecycleCallback := defaultCompactionLifecycleCallback
  io := {
    mkdirAll := fun _ => none
    download := fun _ _ => none
    gatherIndexHealthStats := fun _ _ _ _ => .ok ⟨none, none, none, none, none⟩
    removeTombstones := fun _ id =>
      if id ∈ brokenTombstones then some (.new "remove tombstones") else none
    readFromDir := fun _ id =>
      ((outputs.find? (·.ulid = id)).map .ok).getD (.error (.new "no meta"))
    injectThanos := fun _ id _ =>
      ((outputs.find? (·.ulid = id)).map .ok).getD (.error (.new "no meta"))
    upload := fun _ _ => none
    removeAll := fun _ _ => none
    markForDeletion := fun _ _ _ => none
    removeGroupDir := fun _ => none }
  schedule := ⟨fun _ metas => metas, fun _ _ => List.Perm.refl _⟩

/-- `Group.compact` on blocks 1 and 2, which the compactor merges into the
output blocks 3 and 4. -/
def overlappingOutputsRun : Trace × Except Error (Bool × List Ulid) :=
  Group.compact (sampleBackend [sampleMeta 3 0 15, sampleMeta 4 5 20] [])
    (sampleGroup [sampleMeta 1 0 10, sampleMeta 2 10 20]) []

/-- The two output blocks overlap each other: every check passes, the run
returns both outputs without error, and the surviving blocks of the group are
not pairwise disjoint. -/
theorem compact_accepts_overlapping_outputs :
    overlappingOutputsRun.2 = .ok (true, [3, 4]) ∧
      .injectThanos 3 (.ok (sampleMeta 3 0 15)) ∈ overlappingOutputsRun.1 ∧
      .injectThanos 4 (.ok (sampleMeta 4 5 20)) ∈ overlappingOutputsRun.1 ∧
      ¬ PairwiseDisjoint [(sampleMeta 3 0 15).toBlockMeta, (sampleMeta 4 5 20).toBlockMeta] := by
  decide

end Thanos.Compact.CompactionSafety
