import Thanos.Compact.Collaborators
import Thanos.Compact.ProgressCalculators

/-!
# The compaction progress calculator

`CompactionProgressCalculator.ProgressCalculate` estimates the compactions
left by simulating them: in rounds, it asks the planner for a plan of every
group of the work list, deletes the planned blocks from the group by ULID and
appends one synthesized block merging them, whose ULID is the wall-clock
second read as milliseconds with zero entropy.  A group leaves the work list
when it has one block, when its plan is empty, or when the plan empties it.
Two maps count the compactions and the planned blocks by group key; at the end
the two gauges are set from them.

The planner is the oracle of `Collaborators`, a function of the planner calls
made so far, and the clock is `time.Now().Unix()` as a function of the same
trace, so that every sequence of clock readings is one choice of it.  The
outer loop `for len(groups) > 0` runs here for at most `fuel` rounds:
`compaction_progress_terminates` shows how much fuel is enough.  The groups are
values, the group pointers of the work list being distinct.

`tsdb.CompactBlockMetas` is outside the repository and is translated from
Prometheus on the fields kept.  The group's labels come from `labels.FromMap`,
for which `g.Labels().Map()` turned back by `labels.FromMap` in `AppendMeta` is
the identity: the synthesized block carries the group's own labels.
-/

namespace Thanos.Compact.CompactionProgress

open Thanos.Compact.Primitives
open Thanos.Compact.Errors
open Thanos.Compact.Metadata
open Thanos.Compact.CompactionGroup
open Thanos.Compact.Collaborators
open Thanos.Compact.ProgressCalculators

/-! ## The synthesized block -/

/-- `ulid.MustNew(uint64(sec), nil)`: the timestamp field holds `sec`, read as
milliseconds, and the entropy is zero; `none` is the panic for a timestamp
above `2^48 - 1`, which a negative `sec` reaches by the `uint64` conversion. -/
def mustNewUlid (sec : Int64) : Option Ulid :=
  let ms := sec.toInt % 18446744073709551616
  if ms ≤ 281474976710655 then some (ms.toNat * 2 ^ 80) else none

/-- `tsdb.CompactBlockMetas` on the fields kept: the new ULID, the least
`MinTime` and greatest `MaxTime` of the blocks, one level above the highest,
and the distinct sources in increasing order.  `NumSamples` is left zero. -/
def compactBlockMetas (uid : Ulid) (first : Meta) (rest : List Meta) : BlockMeta where
  ulid := uid
  minTime := (first :: rest).foldl
    (fun mint b => if b.minTime.toInt < mint.toInt then b.minTime else mint) first.minTime
  maxTime := (first :: rest).foldl
    (fun maxt b => if b.maxTime.toInt > maxt.toInt then b.maxTime else maxt) first.maxTime
  numSamples := 0
  level := (first :: rest).foldl (fun level b => max level b.level) 0 + 1
  sources := ((first :: rest).flatMap (·.sources)).dedup.insertionSort (· ≤ ·)

/-- The meta appended for a plan: the merged block with the group's
resolution and labels. -/
def synthesizedMeta (g : Group) (uid : Ulid) (first : Meta) (rest : List Meta) : Meta :=
  ⟨compactBlockMetas uid first rest, ⟨g.labels, g.resolution⟩⟩

/-- The synthesized block always passes the checks of `AppendMeta`. -/
theorem appendMeta_synthesizedMeta (sortSlice : SortSlice) (g : Group) (uid : Ulid)
    (first : Meta) (rest : List Meta) :
    g.appendMeta sortSlice (synthesizedMeta g uid first rest) =
      ({ g with
          metasByMinTime := sortSlice.sortBy (fun member => member.minTime.toInt)
            (g.metasByMinTime ++ [synthesizedMeta g uid first rest]) }, none) :=
  Group.appendMeta_of_accepted sortSlice rfl rfl

/-! ## The simulation -/

/-- What the calculator runs against: `sort.Slice`, the planner, and
`time.Now().Unix()` after the planner calls of the trace. -/
structure ProgressBackend where
  sortSlice : SortSlice
  planner : Planner
  clock : Trace → Int64

/-- The two maps of the calculator, with the planner calls made so far. -/
structure Simulation where
  trace : Trace
  groupCompactions : Tally
  groupBlocks : Tally
deriving DecidableEq

/-- How the calculation stops before its end: it returns an error, or panics. -/
inductive Stop
  | error (err : Error)
  | panic
deriving DecidableEq

section Simulate

variable (backend : ProgressBackend)

/-- One iteration of the inner loop, the turn of group `g`: the simulation
after it and the group kept for the next round, `none` for a `continue`. -/
def simulateGroup (sim : Simulation) (g : Group) : Except Stop (Simulation × Option Group) :=
  if (g.ids backend.sortSlice).length = 1 then .ok (sim, none)
  else
    let plan := backend.planner.plan sim.trace g.metasByMinTime
    let trace := sim.trace ++ [.plan g.metasByMinTime plan]
    match plan with
    | .error err => .error (.error (.wrap "could not plan" err))
    | .ok [] => .ok ({ sim with trace := trace }, none)
    | .ok (first :: rest) =>
      let sim : Simulation :=
        ⟨trace, sim.groupCompactions.add g.key 1, sim.groupBlocks.add g.key (rest.length + 1)⟩
      let g := g.deleteFromGroup ((first :: rest).map (·.ulid))
      if g.metasByMinTime.length = 0 then .ok (sim, none)
      else
        match mustNewUlid (backend.clock trace) with
        | none => .error .panic
        | some uid =>
          let appended := g.appendMeta backend.sortSlice (synthesizedMeta g uid first rest)
          match appended.2 with
          | some err => .error (.error (.wrap "append meta" err))
          | none => .ok (sim, some appended.1)

/-- The inner loop over the work list: the simulation after it and `tmpGroups`. -/
def simulateRound : Simulation → List Group → Except Stop (Simulation × List Group)
  | sim, [] => .ok (sim, [])
  | sim, g :: rest =>
    match simulateGroup backend sim g with
    | .error stop => .error stop
    | .ok (sim, kept) =>
      match simulateRound sim rest with
      | .error stop => .error stop
      | .ok (sim, later) => .ok (sim, kept.toList ++ later)

/-- The outer loop `for len(groups) > 0` for at most `fuel` rounds, `none`
when the fuel runs out first. -/
def simulateRounds : Nat → Simulation → List Group → Option (Except Stop Simulation)
  | _, sim, [] => some (.ok sim)
  | 0, _, _ :: _ => none
  | fuel + 1, sim, g :: rest =>
    match simulateRound backend sim (g :: rest) with
    | .error stop => some (.error stop)
    | .ok (sim, tmpGroups) => simulateRounds fuel sim tmpGroups

/-- The gauges set after the loop: the compactions, and the planned blocks
summed over the keys of `groupCompactions`. -/
def progressGauges (sim : Simulation) : Nat × Nat :=
  (sim.groupCompactions.total, (sim.groupCompactions.map fun entry => sim.groupBlocks.get entry.1).sum)

/-- `CompactionProgressCalculator.ProgressCalculate` with `fuel` rounds: the
two gauges after a successful call; after an error they keep their values. -/
def compactionProgressCalculate (fuel : Nat) (groups : List Group) :
    Option (Except Stop (Nat × Nat)) :=
  (simulateRounds backend fuel ⟨[], [], []⟩ groups).map fun result => result.map progressGauges

/-! ## What one turn does -/

/-- What a turn that does not stop does: either it counts nothing and keeps no
group, or the planner returned a non-empty plan, which is counted, and the
group kept, if any, is a permutation of the members outside the plan's ULIDs
and one synthesized block. -/
theorem simulateGroup_eq_ok {sim sim' : Simulation} {g : Group} {kept : Option Group}
    (turn : simulateGroup backend sim g = .ok (sim', kept)) :
    (sim'.groupCompactions = sim.groupCompactions ∧ sim'.groupBlocks = sim.groupBlocks ∧
      kept = none) ∨
    ∃ first rest, backend.planner.plan sim.trace g.metasByMinTime = .ok (first :: rest) ∧
      sim'.groupCompactions = sim.groupCompactions.add g.key 1 ∧
      sim'.groupBlocks = sim.groupBlocks.add g.key (rest.length + 1) ∧
      ∀ g' ∈ kept, (g.deleteFromGroup ((first :: rest).map (·.ulid))).metasByMinTime ≠ [] ∧
        ∃ uid, g'.metasByMinTime.Perm
          ((g.deleteFromGroup ((first :: rest).map (·.ulid))).metasByMinTime ++
            [synthesizedMeta (g.deleteFromGroup ((first :: rest).map (·.ulid))) uid first rest]) := by
  unfold simulateGroup at turn
  split_ifs at turn with single
  · cases turn
    exact .inl ⟨rfl, rfl, rfl⟩
  dsimp only at turn
  split at turn
  · cases turn
  · cases turn
    exact .inl ⟨rfl, rfl, rfl⟩
  rename_i first rest planned
  refine .inr ⟨first, rest, planned, ?_⟩
  split_ifs at turn with emptied
  · cases turn
    exact ⟨rfl, rfl, fun g' kept => absurd kept (Option.not_mem_none g')⟩
  split at turn
  · cases turn
  rename_i uid _
  simp only [appendMeta_synthesizedMeta] at turn
  cases turn
  refine ⟨rfl, rfl, fun g' kept => ?_⟩
  cases kept
  exact ⟨fun empty => emptied (by rw [empty]; rfl), uid, backend.sortSlice.sortBy_perm _ _⟩

end Simulate

/-! ## Termination -/

/-- The number of blocks over a work list. -/
def metaCount (groups : List Group) : Nat := (groups.map (·.metasByMinTime.length)).sum

@[simp]
theorem metaCount_nil : metaCount [] = 0 := rfl

@[simp]
theorem metaCount_append (groups others : List Group) :
    metaCount (groups ++ others) = metaCount groups + metaCount others := by
  simp [metaCount]

@[simp]
theorem metaCount_cons (g : Group) (groups : List Group) :
    metaCount (g :: groups) = g.metasByMinTime.length + metaCount groups := by
  simp [metaCount]

/-- A planner whose every plan is empty or a sub-list of at least two of the
blocks it was given. -/
def PlansShrink (planner : Planner) : Prop :=
  ∀ trace metas plan, planner.plan trace metas = .ok plan →
    plan = [] ∨ (2 ≤ plan.length ∧ plan.Sublist metas)

/-- Deleting by the ULIDs of a sub-list of the members removes at least its entries. -/
theorem length_deleteFromGroup_add_le {g : Group} {plan : List Meta}
    (sub : plan.Sublist g.metasByMinTime) :
    (g.deleteFromGroup (plan.map (·.ulid))).metasByMinTime.length + plan.length ≤
      g.metasByMinTime.length := by
  have planned : plan.Sublist <| g.metasByMinTime.filter fun m => !decide (m.ulid ∉ plan.map (·.ulid)) := by
    have kept := sub.filter fun m => !decide (m.ulid ∉ plan.map (·.ulid))
    rwa [List.filter_eq_self.mpr fun m mem => by simpa using List.mem_map_of_mem _ mem] at kept
  rw [@List.length_eq_length_filter_add _ g.metasByMinTime fun m => decide (m.ulid ∉ plan.map (·.ulid))]
  have := planned.length_le
  simp only [Group.deleteFromGroup]
  omega

section Shrinking

variable {backend : ProgressBackend} (shrink : PlansShrink backend.planner)
include shrink

/-- Under a shrinking planner a turn keeps only a non-empty group with fewer blocks. -/
theorem simulateGroup_shrinks {sim sim' : Simulation} {g : Group} {kept : Option Group}
    (turn : simulateGroup backend sim g = .ok (sim', kept)) :
    ∀ g' ∈ kept, g'.metasByMinTime ≠ [] ∧ g'.metasByMinTime.length < g.metasByMinTime.length := by
  rcases simulateGroup_eq_ok backend turn with ⟨-, -, rfl⟩ | ⟨first, rest, planned, -, -, merged⟩
  · exact fun g' kept => absurd kept (Option.not_mem_none g')
  intro g' kept
  obtain ⟨remaining, uid, perm⟩ := merged g' kept
  rcases shrink _ _ _ planned with empty | ⟨two, sub⟩
  · cases empty
  have removed := length_deleteFromGroup_add_le sub
  have size := perm.length_eq
  simp only [List.length_append, List.length_cons, List.length_nil] at size removed two
  exact ⟨fun empty => by simp [empty] at size, by omega⟩

/-- Under a shrinking planner a round over non-empty groups keeps non-empty
groups only, and every group of the work list loses at least one block. -/
theorem simulateRound_shrinks {sim sim' : Simulation} {groups tmpGroups : List Group}
    (nonempty : ∀ g ∈ groups, g.metasByMinTime ≠ [])
    (round : simulateRound backend sim groups = .ok (sim', tmpGroups)) :
    (∀ g ∈ tmpGroups, g.metasByMinTime ≠ []) ∧
      metaCount tmpGroups + groups.length ≤ metaCount groups := by
  induction groups generalizing sim sim' tmpGroups with
  | nil =>
    cases round
    simp
  | cons g rest induction =>
    unfold simulateRound at round
    split at round
    · cases round
    rename_i sim₁ kept turn
    split at round
    · cases round
    rename_i sim₂ later laterRound
    cases round
    obtain ⟨laterNonempty, laterCount⟩ :=
      induction (fun g' mem => nonempty g' (.tail _ mem)) laterRound
    have keptShrinks := simulateGroup_shrinks shrink turn
    have present := List.length_pos.mpr (nonempty g (.head _))
    refine ⟨?_, ?_⟩
    · simp only [List.mem_append, Option.mem_toList]
      rintro g' (kept | later)
      exacts [(keptShrinks g' kept).1, laterNonempty g' later]
    · cases kept with
      | none => simp only [Option.toList_none, List.nil_append, List.length_cons, metaCount_cons]; omega
      | some g' =>
        have := (keptShrinks g' rfl).2
        simp only [Option.toList_some, List.singleton_append, List.length_cons, metaCount_cons]
        omega

/-- With more rounds of fuel than blocks in the work list, the outer loop ends. -/
theorem simulateRounds_isSome (fuel : Nat) (sim : Simulation) (groups : List Group)
    (nonempty : ∀ g ∈ groups, g.metasByMinTime ≠ []) (enough : metaCount groups < fuel) :
    (simulateRounds backend fuel sim groups).isSome := by
  induction fuel generalizing sim groups with
  | zero => omega
  | succ fuel induction =>
    match groups, nonempty, enough with
    | [], _, _ => rfl
    | g :: rest, nonempty, enough =>
      unfold simulateRounds
      split
      · rfl
      rename_i sim' tmpGroups round
      obtain ⟨kept, fewer⟩ := simulateRound_shrinks shrink nonempty round
      exact induction sim' tmpGroups kept (by simp only [List.length_cons] at fewer; omega)

end Shrinking

/-- For every list of non-empty groups and every planner whose plans are empty
or sub-lists of at least two of the group's blocks: a round keeps only
non-empty groups, and the number of blocks over the work list strictly
decreases from one round to the next; so the outer loop ends, within one
round more than the blocks of the groups. -/
theorem compaction_progress_terminates (backend : ProgressBackend)
    (shrink : PlansShrink backend.planner) (groups : List Group)
    (nonempty : ∀ g ∈ groups, g.metasByMinTime ≠ []) :
    (∀ sim sim' tmpGroups, simulateRound backend sim groups = .ok (sim', tmpGroups) →
      (∀ g ∈ tmpGroups, g.metasByMinTime ≠ []) ∧
        (groups ≠ [] → metaCount tmpGroups < metaCount groups)) ∧
    ∀ fuel, metaCount groups < fuel → (compactionProgressCalculate backend fuel groups).isSome := by
  refine ⟨fun sim sim' tmpGroups round => ?_, fun fuel enough => ?_⟩
  · obtain ⟨kept, fewer⟩ := simulateRound_shrinks shrink nonempty round
    exact ⟨kept, fun present => by have := List.length_pos.mpr present; omega⟩
  · simpa [compactionProgressCalculate] using
      simulateRounds_isSome shrink fuel ⟨[], [], []⟩ groups nonempty enough

/-! ## A run with a frozen clock -/

/-- The planner that plans the first two blocks of a group of at least two. -/
def firstTwoPlanner : Planner :=
  ⟨fun _ metas => .ok (if 2 ≤ metas.length then metas.take 2 else [])⟩

/-- The first two blocks planned, with every clock reading in second 1. -/
def frozenClockBackend : ProgressBackend :=
  ⟨insertionSortSlice, firstTwoPlanner, fun _ => Int64.ofInt 1⟩

/-- Five raw one-source blocks over `[0, 10)` in one group. -/
def fiveBlocks : Group :=
  labelFreeGroup ((List.range 5).map fun i => sourceBlock (i + 1) 0 10)

/-- Planning the first two blocks shrinks every group: the loop over the five
blocks ends within six rounds. -/
theorem compaction_progress_terminates_first_two :
    PlansShrink firstTwoPlanner ∧
      (compactionProgressCalculate frozenClockBackend 6 [fiveBlocks]).isSome :=
  have shrink : PlansShrink firstTwoPlanner := fun _ metas plan planned => by
    simp only [firstTwoPlanner, Except.ok.injEq] at planned
    subst planned
    split_ifs with two
    · exact .inr ⟨by simp only [List.length_take]; omega, List.take_sublist 2 metas⟩
    · exact .inl rfl
  ⟨shrink, (compaction_progress_terminates frozenClockBackend shrink [fiveBlocks] (by decide)).2 6
    (by decide)⟩

/-- Within one clock second the merge of blocks 1 and 2 and the merge of
blocks 3 and 4 get the same ULID.  The third plan, block 5 and the first
merge, deletes the second merge as well, and the simulation ends with 6
blocks counted for the 7 distinct blocks it removed. -/
theorem compaction_progress_deletes_unplanned_merge :
    ∃ sim, simulateRounds frozenClockBackend 3 ⟨[], [], []⟩ [fiveBlocks] = some (.ok sim) ∧
      Event.plan
          [sourceBlock 5 0 10,
            synthesizedMeta (labelFreeGroup []) (2 ^ 80) (sourceBlock 1 0 10) [sourceBlock 2 0 10],
            synthesizedMeta (labelFreeGroup []) (2 ^ 80) (sourceBlock 3 0 10) [sourceBlock 4 0 10]]
          (.ok [sourceBlock 5 0 10,
            synthesizedMeta (labelFreeGroup []) (2 ^ 80) (sourceBlock 1 0 10) [sourceBlock 2 0 10]])
        ∈ sim.trace ∧
      synthesizedMeta (labelFreeGroup []) (2 ^ 80) (sourceBlock 1 0 10) [sourceBlock 2 0 10] ≠
        synthesizedMeta (labelFreeGroup []) (2 ^ 80) (sourceBlock 3 0 10) [sourceBlock 4 0 10] ∧
      sim.groupBlocks = [("0@{}", 6)] :=
  ⟨_, rfl, by decide, by decide, rfl⟩

end Thanos.Compact.CompactionProgress
