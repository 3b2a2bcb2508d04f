import Mathlib.Data.List.Perm.Basic
import Thanos.Compact.CompactionGroup

/-!
# The default grouper

`DefaultGrouper.Groups` partitions the blocks the syncer knows into compaction
groups.  It visits the block map once, in Go's map order; for each block it
looks up the group of the block's `GroupKey()`, creating it with `NewGroup` on
first sight, and calls `AppendMeta`.  The groups are returned sorted by key.

The map of the Go code and the slice `res` hold the same group pointers; here
`res` alone is kept and the map is its lookup by key.  `GroupKey()` belongs to
the `metadata` package outside the repository and is a parameter: any function
of a block's Thanos section.  The block map is given by its values in the
order Go visits them, so every statement below holds for every iteration
order.

`Grouped` is what the loop keeps between iterations.  From it: `Groups` fails
exactly when some block needs a new group and `blockFilesConcurrency <= 0`, or
two blocks share a key but not their labels and resolution
(`groups_partition_blocks`); otherwise the groups partition the blocks by key.
Within a group the blocks are ordered by `MinTime` only: blocks with equal
`MinTime` keep the order in which the map and `sort.Slice` left them
(`groups_order_up_to_equal_min_times`).
-/

namespace Thanos.Compact.Grouper

open Thanos.Compact.Primitives
open Thanos.Compact.Errors
open Thanos.Compact.Metadata
open Thanos.Compact.CompactionGroup

/-- `DefaultGrouper`, with the settings it passes to every group it creates. -/
structure DefaultGrouper where
  acceptMalformedIndex : Bool
  enableVerticalCompaction : Bool
  blockFilesConcurrency : Int
  compactBlocksFetchConcurrency : Int

section Grouping

variable (sortSlice : SortSlice) (groupKey : Thanos → String)

/-- Put `group` in place of the group of `res` with its key. -/
def replaceGroup (res : List Group) (group : Group) : List Group :=
  res.map fun other => if other.key = group.key then group else other

/-- The group of the key of `meta`, created by `NewGroup` and added to `res` on first sight. -/
def DefaultGrouper.groupFor (grouper : DefaultGrouper) (res : List Group) (meta : Meta) :
    Except Error (List Group × Group) :=
  let key := groupKey meta.thanos
  match res.find? fun group => group.key = key with
  | some group => .ok (res, group)
  | none =>
      match newGroup key meta.thanos.labels meta.thanos.resolution
          grouper.acceptMalformedIndex grouper.enableVerticalCompaction
          grouper.blockFilesConcurrency grouper.compactBlocksFetchConcurrency with
      | .error err => .error (.wrap "create compaction group" err)
      | .ok group => .ok (res ++ [group], group)

/-- One iteration of the loop of `Groups` over the block `meta`. -/
def DefaultGrouper.addBlock (grouper : DefaultGrouper) (res : List Group) (meta : Meta) :
    Except Error (List Group) :=
  match grouper.groupFor groupKey res meta with
  | .error err => .error err
  | .ok (res, group) =>
      match group.appendMeta sortSlice meta with
      | (_, some err) => .error (.wrap "add compaction group" err)
      | (group, none) => .ok (replaceGroup res group)

/-- The loop of `Groups` over the blocks in iteration order, stopping at the first error. -/
def DefaultGrouper.addBlocks (grouper : DefaultGrouper) :
    List Group → List Meta → Except Error (List Group)
  | res, [] => .ok res
  | res, meta :: rest =>
      match grouper.addBlock sortSlice groupKey res meta with
      | .error err => .error err
      | .ok res => grouper.addBlocks res rest

/-- `DefaultGrouper.Groups`: `blocks` are the map's values in Go's iteration order. -/
def DefaultGrouper.groups (grouper : DefaultGrouper) (blocks : List Meta) :
    Except Error (List Group) :=
  match grouper.addBlocks sortSlice groupKey [] blocks with
  | .error err => .error err
  | .ok res => .ok (sortSlice.sortBy (·.key) res)

/-! ## What the loop keeps -/

/-- The blocks of `blocks` with key `key`. -/
def withKey (blocks : List Meta) (key : String) : List Meta :=
  blocks.filter fun meta => groupKey meta.thanos = key

/-- Blocks with the same key have the same labels and resolution. -/
def Consistent (blocks : List Meta) : Prop :=
  ∀ first ∈ blocks, ∀ second ∈ blocks,
    groupKey first.thanos = groupKey second.thanos → first.thanos = second.thanos

/-- The groups `res` after the loop has visited the blocks `done`. -/
structure Grouped (done : List Meta) (res : List Group) : Prop where
  keys_nodup : (res.map (·.key)).Nodup
  members : ∀ group ∈ res, group.metasByMinTime.Perm (withKey groupKey done group.key)
  covers : ∀ meta ∈ done, ∃ group ∈ res, group.key = groupKey meta.thanos
  inhabited : ∀ group ∈ res, group.metasByMinTime ≠ []
  formed : ∀ group ∈ res, group.WellFormed

theorem grouped_nil : Grouped groupKey [] [] :=
  ⟨List.nodup_nil, by simp, by simp, by simp, by simp⟩

@[simp]
theorem withKey_append_single (done : List Meta) (meta : Meta) (key : String) :
    withKey groupKey (done ++ [meta]) key =
      withKey groupKey done key ++ if groupKey meta.thanos = key then [meta] else [] := by
  simp only [withKey, List.filter_append, List.filter_cons, List.filter_nil]
  split_ifs <;> simp_all

/-- The members of a group all carry the group's key, labels and resolution. -/
theorem Grouped.member {done : List Meta} {res : List Group} (grouped : Grouped groupKey done res)
    {group : Group} (present : group ∈ res) {meta : Meta} (member : meta ∈ done)
    (sameKey : groupKey meta.thanos = group.key) :
    meta ∈ group.metasByMinTime ∧ meta.thanos = ⟨group.labels, group.resolution⟩ := by
  have belongs : meta ∈ group.metasByMinTime :=
    (grouped.members group present).mem_iff.mpr (by simp [withKey, member, sameKey])
  exact ⟨belongs, Thanos.ext ((grouped.formed group present).labels_eq meta belongs)
    ((grouped.formed group present).resolution_eq meta belongs)⟩

/-- A group has a visited block of its key. -/
theorem Grouped.witness {done : List Meta} {res : List Group} (grouped : Grouped groupKey done res)
    {group : Group} (present : group ∈ res) :
    ∃ meta ∈ done, groupKey meta.thanos = group.key := by
  obtain ⟨meta, belongs⟩ := List.exists_mem_of_ne_nil _ (grouped.inhabited group present)
  have := (grouped.members group present).subset belongs
  simp only [withKey, List.mem_filter, decide_eq_true_eq] at this
  exact ⟨meta, this⟩

/-! ## Replacing a group -/

@[simp]
theorem map_key_replaceGroup (res : List Group) (group : Group) :
    (replaceGroup res group).map (·.key) = res.map (·.key) := by
  simp only [replaceGroup, List.map_map]
  exact List.map_congr_left fun other _ => by
    by_cases same : other.key = group.key <;> simp [same]

theorem mem_replaceGroup {res : List Group} {group other : Group}
    (present : other ∈ replaceGroup res group) :
    (other = group ∧ ∃ old ∈ res, old.key = group.key) ∨ (other ∈ res ∧ other.key ≠ group.key) := by
  obtain ⟨old, belongs, rfl⟩ := List.mem_map.mp present
  by_cases same : old.key = group.key
  · exact Or.inl ⟨by simp [same], old, belongs, same⟩
  · exact Or.inr ⟨by simpa [same] using belongs, by simp [same]⟩

theorem replaceGroup_mem {res : List Group} {group old : Group} (belongs : old ∈ res)
    (same : old.key = group.key) : group ∈ replaceGroup res group :=
  List.mem_map.mpr ⟨old, belongs, by simp [same]⟩

theorem replaceGroup_mem_other {res : List Group} {group old : Group} (belongs : old ∈ res)
    (other : old.key ≠ group.key) : old ∈ replaceGroup res group :=
  List.mem_map.mpr ⟨old, belongs, by simp [other]⟩

theorem replaceGroup_of_missing {res : List Group} {group : Group}
    (missing : ∀ old ∈ res, old.key ≠ group.key) : replaceGroup res group = res := by
  conv_rhs => rw [← List.map_id res]
  exact List.map_congr_left fun old belongs => by simp [missing old belongs]

/-! ## One iteration -/

section Iteration

variable (grouper : DefaultGrouper)

theorem groupFor_of_found {res : List Group} {meta : Meta} {group : Group}
    (found : res.find? (fun group => group.key = groupKey meta.thanos) = some group) :
    grouper.groupFor groupKey res meta = .ok (res, group) := by
  simp only [DefaultGrouper.groupFor, found]

theorem groupFor_of_missing {res : List Group} {meta : Meta}
    (missing : res.find? (fun group => group.key = groupKey meta.thanos) = none) :
    grouper.groupFor groupKey res meta =
      match newGroup (groupKey meta.thanos) meta.thanos.labels meta.thanos.resolution
          grouper.acceptMalformedIndex grouper.enableVerticalCompaction
          grouper.blockFilesConcurrency grouper.compactBlocksFetchConcurrency with
      | .error err => .error (.wrap "create compaction group" err)
      | .ok group => .ok (res ++ [group], group) := by
  simp only [DefaultGrouper.groupFor, missing]

theorem addBlock_of_groupFor {res found : List Group} {meta : Meta} {group : Group}
    (located : grouper.groupFor groupKey res meta = .ok (found, group)) :
    grouper.addBlock sortSlice groupKey res meta =
      match group.appendMeta sortSlice meta with
      | (_, some err) => .error (.wrap "add compaction group" err)
      | (group, none) => .ok (replaceGroup found group) := by
  simp only [DefaultGrouper.addBlock, located]

/-- Appending to the group of the block's key: the groups after the call are grouped. -/
theorem Grouped.replace {done : List Meta} {res : List Group} (grouped : Grouped groupKey done res)
    {group : Group} (present : group ∈ res) {meta : Meta}
    (sameKey : group.key = groupKey meta.thanos)
    (accepted : group.labels = meta.thanos.labels ∧ group.resolution = meta.thanos.resolution) :
    Grouped groupKey (done ++ [meta])
      (replaceGroup res (group.appendMeta sortSlice meta).1) := by
  rw [Group.appendMeta_of_accepted sortSlice accepted.1 accepted.2]
  set appended : Group := { group with
    metasByMinTime := sortSlice.sortBy (fun member => member.minTime.toInt)
      (group.metasByMinTime ++ [meta]) }
  have appendedKey : appended.key = group.key := rfl
  have appendedFormed : appended.WellFormed := by
    have := (grouped.formed group present).appendMeta sortSlice meta
    rwa [Group.appendMeta_of_accepted sortSlice accepted.1 accepted.2] at this
  refine ⟨by simpa using grouped.keys_nodup, fun other belongs => ?_,
    List.forall_mem_append.mpr ⟨fun member earlier => ?_,
      List.forall_mem_singleton.mpr ⟨appended, replaceGroup_mem present rfl, sameKey⟩⟩,
    fun other belongs => ?_, fun other belongs => ?_⟩
  · rcases mem_replaceGroup belongs with ⟨rfl, -⟩ | ⟨old, otherKey⟩
    · refine (sortSlice.sortBy_perm _ _).trans ?_
      simpa [appendedKey, sameKey] using (grouped.members group present).append_right [meta]
    · have apart : groupKey meta.thanos ≠ other.key := by
        rw [← sameKey, ← appendedKey]
        exact Ne.symm otherKey
      simpa [apart] using grouped.members other old
  · obtain ⟨old, oldPresent, oldKey⟩ := grouped.covers member earlier
    by_cases same : old.key = appended.key
    · exact ⟨appended, replaceGroup_mem oldPresent same, by rw [← oldKey, same]⟩
    · exact ⟨old, replaceGroup_mem_other oldPresent same, oldKey⟩
  · rcases mem_replaceGroup belongs with ⟨rfl, -⟩ | ⟨old, -⟩
    · intro empty
      simpa [appended] using congrArg List.length empty
    · exact grouped.inhabited other old
  · rcases mem_replaceGroup belongs with ⟨rfl, -⟩ | ⟨old, -⟩
    · exact appendedFormed
    · exact grouped.formed other old

/-- A block of a new key: the fresh group of `NewGroup` joins the grouped groups. -/
theorem Grouped.insert {done : List Meta} {res : List Group} (grouped : Grouped groupKey done res)
    {meta : Meta} (missing : ∀ group ∈ res, group.key ≠ groupKey meta.thanos) {fresh : Group}
    (freshKey : fresh.key = groupKey meta.thanos) (freshEmpty : fresh.metasByMinTime = [])
    (accepted : fresh.labels = meta.thanos.labels ∧ fresh.resolution = meta.thanos.resolution) :
    Grouped groupKey (done ++ [meta])
      (replaceGroup (res ++ [fresh]) (fresh.appendMeta sortSlice meta).1) := by
  have unseen : withKey groupKey done (groupKey meta.thanos) = [] := by
    refine List.filter_eq_nil_iff.mpr fun earlier belongs same => ?_
    obtain ⟨group, present, key⟩ := grouped.covers earlier belongs
    exact missing group present (key.trans (of_decide_eq_true same))
  have freshFormed := (Group.wellFormed_of_nil freshEmpty).appendMeta sortSlice meta
  rw [Group.appendMeta_of_accepted sortSlice accepted.1 accepted.2] at freshFormed ⊢
  set appended : Group := { fresh with
    metasByMinTime := sortSlice.sortBy (fun member => member.minTime.toInt)
      (fresh.metasByMinTime ++ [meta]) }
  have appendedKey : appended.key = groupKey meta.thanos := freshKey
  have placed : replaceGroup (res ++ [fresh]) appended = res ++ [appended] := by
    rw [replaceGroup, List.map_append, ← replaceGroup,
      replaceGroup_of_missing fun group present => appendedKey ▸ missing group present]
    simp [appended]
  rw [placed]
  refine ⟨?_, List.forall_mem_append.mpr ⟨fun other old => ?_, List.forall_mem_singleton.mpr ?_⟩,
    List.forall_mem_append.mpr ⟨fun member earlier => ?_,
      List.forall_mem_singleton.mpr ⟨appended, by simp, appendedKey⟩⟩,
    List.forall_mem_append.mpr ⟨grouped.inhabited, List.forall_mem_singleton.mpr fun empty => by
      simpa [appended] using congrArg List.length empty⟩,
    List.forall_mem_append.mpr ⟨grouped.formed, List.forall_mem_singleton.mpr freshFormed⟩⟩
  · rw [List.map_append, List.map_singleton, List.nodup_append]
    refine ⟨grouped.keys_nodup, List.nodup_singleton _, fun key inRes inNew => ?_⟩
    obtain ⟨group, present, rfl⟩ := List.mem_map.mp inRes
    exact missing group present ((List.mem_singleton.mp inNew).trans appendedKey)
  · have apart : groupKey meta.thanos ≠ other.key := fun same => missing other old same.symm
    simpa [apart] using grouped.members other old
  · refine (sortSlice.sortBy_perm _ _).trans ?_
    simp [freshEmpty, freshKey, unseen]
  · obtain ⟨group, present, key⟩ := grouped.covers member earlier
    exact ⟨group, List.mem_append_left _ present, key⟩

/--
One iteration succeeds exactly when the block agrees with the visited blocks of
its key and, for a new key, `blockFilesConcurrency > 0`; the groups it returns
are grouped.
-/
theorem Grouped.addBlock {done : List Meta} {res : List Group} (grouped : Grouped groupKey done res)
    (meta : Meta) :
    ((∃ res', grouper.addBlock sortSlice groupKey res meta = .ok res') ↔
      (∀ earlier ∈ done, groupKey earlier.thanos = groupKey meta.thanos →
          earlier.thanos = meta.thanos) ∧
        ((∃ group ∈ res, group.key = groupKey meta.thanos) ∨ 0 < grouper.blockFilesConcurrency)) ∧
      ∀ res', grouper.addBlock sortSlice groupKey res meta = .ok res' →
        Grouped groupKey (done ++ [meta]) res' := by
  cases found : res.find? fun group => group.key = groupKey meta.thanos with
  | some group =>
      have present := List.mem_of_find?_eq_some found
      have sameKey : group.key = groupKey meta.thanos := by simpa using List.find?_some found
      obtain ⟨witness, seen, witnessKey⟩ := grouped.witness groupKey present
      have agree : ∀ earlier ∈ done, groupKey earlier.thanos = groupKey meta.thanos →
          earlier.thanos = ⟨group.labels, group.resolution⟩ := fun earlier belongs key =>
        (grouped.member groupKey present belongs (key.trans sameKey.symm)).2
      rw [addBlock_of_groupFor sortSlice groupKey grouper (groupFor_of_found groupKey grouper found)]
      by_cases accepted : group.labels = meta.thanos.labels ∧ group.resolution = meta.thanos.resolution
      · have grouped' := grouped.replace sortSlice groupKey present sameKey accepted
        rw [Group.appendMeta_of_accepted sortSlice accepted.1 accepted.2] at grouped' ⊢
        refine ⟨iff_of_true ⟨_, rfl⟩ ⟨fun earlier belongs key => ?_, Or.inl ⟨group, present, sameKey⟩⟩,
          fun res' returned => Except.ok.inj returned ▸ grouped'⟩
        rw [agree earlier belongs key]
        exact Thanos.ext accepted.1 accepted.2
      · obtain ⟨err, refused⟩ := Option.isSome_iff_exists.mp
          ((group.appendMeta_error_iff sortSlice meta).mpr (by tauto))
        have kept := Group.appendMeta_of_error sortSlice refused
        rw [show group.appendMeta sortSlice meta = (group, some err) from Prod.ext kept refused]
        refine ⟨iff_of_false (by simp) fun ⟨consistent, _⟩ => accepted ?_, by simp⟩
        have := (agree witness seen (witnessKey.trans sameKey)).symm.trans
          (consistent witness seen (witnessKey.trans sameKey))
        exact ⟨congrArg Thanos.labels this, congrArg Thanos.resolution this⟩
  | none =>
      have missing : ∀ group ∈ res, group.key ≠ groupKey meta.thanos := fun group present same =>
        List.find?_eq_none.mp found group present (decide_eq_true same)
      have unseen : ∀ earlier ∈ done, groupKey earlier.thanos ≠ groupKey meta.thanos :=
        fun earlier belongs same => by
          obtain ⟨group, present, key⟩ := grouped.covers earlier belongs
          exact missing group present (key.trans same)
      by_cases refusedConcurrency : grouper.blockFilesConcurrency ≤ 0
      · obtain ⟨err, failed⟩ : ∃ err, grouper.groupFor groupKey res meta = .error err :=
          ⟨_, by rw [groupFor_of_missing groupKey grouper found, newGroup, if_pos refusedConcurrency]⟩
        simp only [DefaultGrouper.addBlock, failed]
        refine ⟨iff_of_false (by simp) fun ⟨_, located⟩ => ?_, by simp⟩
        rcases located with ⟨group, present, same⟩ | positive
        · exact missing group present same
        · omega
      · obtain ⟨fresh, created⟩ : ∃ fresh, newGroup (groupKey meta.thanos) meta.thanos.labels
            meta.thanos.resolution grouper.acceptMalformedIndex grouper.enableVerticalCompaction
            grouper.blockFilesConcurrency grouper.compactBlocksFetchConcurrency = .ok fresh :=
          ⟨_, by rw [newGroup, if_neg refusedConcurrency]⟩
        obtain ⟨-, freshKey, freshLabels, freshResolution, freshEmpty, -⟩ := newGroup_eq_ok created
        have located : grouper.groupFor groupKey res meta = .ok (res ++ [fresh], fresh) := by
          rw [groupFor_of_missing groupKey grouper found, created]
        have grouped' := grouped.insert sortSlice groupKey missing freshKey freshEmpty
          ⟨freshLabels, freshResolution⟩
        rw [addBlock_of_groupFor sortSlice groupKey grouper located]
        rw [Group.appendMeta_of_accepted sortSlice freshLabels freshResolution] at grouped' ⊢
        exact ⟨iff_of_true ⟨_, rfl⟩ ⟨fun earlier belongs same => absurd same (unseen earlier belongs),
          Or.inr (by omega)⟩, fun res' returned => Except.ok.inj returned ▸ grouped'⟩

end Iteration

/-! ## The whole loop -/

theorem Consistent.snoc {done : List Meta} (consistent : Consistent groupKey done) {meta : Meta}
    (agree : ∀ earlier ∈ done, groupKey earlier.thanos = groupKey meta.thanos →
      earlier.thanos = meta.thanos) :
    Consistent groupKey (done ++ [meta]) := by
  intro first firstIn second secondIn same
  rcases List.mem_append.mp firstIn with firstOld | firstNew <;>
    rcases List.mem_append.mp secondIn with secondOld | secondNew
  · exact consistent first firstOld second secondOld same
  · rw [List.mem_singleton.mp secondNew] at same ⊢
    exact agree first firstOld same
  · rw [List.mem_singleton.mp firstNew] at same ⊢
    exact (agree second secondOld same.symm).symm
  · rw [List.mem_singleton.mp firstNew, List.mem_singleton.mp secondNew]

/--
The loop over the remaining blocks keeps the groups grouped and, when
`blockFilesConcurrency > 0`, succeeds exactly when all blocks are consistent.
-/
theorem Grouped.addBlocks (grouper : DefaultGrouper) {done : List Meta} {res : List Group}
    (grouped : Grouped groupKey done res) (consistent : Consistent groupKey done)
    (rest : List Meta) :
    (∀ res', grouper.addBlocks sortSlice groupKey res rest = .ok res' →
        Grouped groupKey (done ++ rest) res') ∧
      (0 < grouper.blockFilesConcurrency →
        ((∃ res', grouper.addBlocks sortSlice groupKey res rest = .ok res') ↔
          Consistent groupKey (done ++ rest))) := by
  induction rest generalizing done res with
  | nil =>
      simp only [DefaultGrouper.addBlocks, Except.ok.injEq, List.append_nil, exists_eq',
        true_iff]
      exact ⟨fun res' same => same ▸ grouped, fun _ => consistent⟩
  | cons meta rest induction =>
      obtain ⟨succeeds, step⟩ := grouped.addBlock sortSlice groupKey grouper meta
      have reassociated : done ++ meta :: rest = (done ++ [meta]) ++ rest := by simp
      cases added : grouper.addBlock sortSlice groupKey res meta with
      | error err =>
          simp only [DefaultGrouper.addBlocks, added, reduceCtorEq, false_implies, implies_true,
            exists_false, false_iff, true_and]
          intro positive consistentAll
          obtain ⟨res', returned⟩ := succeeds.mpr ⟨fun earlier belongs same =>
            consistentAll earlier (by simp [belongs]) meta (by simp) same, Or.inr positive⟩
          rw [added] at returned
          cases returned
      | ok next =>
          have agree := (succeeds.mp ⟨next, added⟩).1
          obtain ⟨groupedRest, consistentRest⟩ :=
            induction (step next added) (consistent.snoc groupKey agree)
          simp only [DefaultGrouper.addBlocks, added, reassociated]
          exact ⟨groupedRest, consistentRest⟩

/-! ## The groups returned -/

/-- Grouping is a statement about the groups present, not their order. -/
theorem Grouped.perm {done : List Meta} {res others : List Group} (grouped : Grouped groupKey done res)
    (permuted : res.Perm others) : Grouped groupKey done others where
  keys_nodup := (permuted.map _).nodup_iff.mp grouped.keys_nodup
  members group present := grouped.members group (permuted.mem_iff.mpr present)
  covers meta belongs := by
    obtain ⟨group, present, key⟩ := grouped.covers meta belongs
    exact ⟨group, permuted.mem_iff.mp present, key⟩
  inhabited group present := grouped.inhabited group (permuted.mem_iff.mpr present)
  formed group present := grouped.formed group (permuted.mem_iff.mpr present)

/-- Concatenating the blocks of distinct keys gives the blocks with those keys. -/
theorem flatMap_withKey (blocks : List Meta) :
    ∀ keys : List String, keys.Nodup →
      (keys.flatMap (withKey groupKey blocks)).Perm
        (blocks.filter fun meta => groupKey meta.thanos ∈ keys)
  | [], _ => by simp
  | key :: keys, nodup => by
      obtain ⟨fresh, nodupRest⟩ := List.nodup_cons.mp nodup
      rw [List.flatMap_cons]
      refine ((flatMap_withKey blocks keys nodupRest).append_left _).trans ?_
      have split := List.filter_append_perm (fun meta => decide (groupKey meta.thanos = key))
        (blocks.filter fun meta => groupKey meta.thanos ∈ key :: keys)
      rw [List.filter_filter, List.filter_filter] at split
      convert split using 2 <;> refine List.filter_congr fun meta _ => ?_ <;>
        by_cases same : groupKey meta.thanos = key
      · simp [same]
      · simp [same]
      · simp [same, fresh]
      · simp [same]

/-- The groups hold, between them, exactly the visited blocks. -/
theorem Grouped.flatMap_perm {done : List Meta} {res : List Group}
    (grouped : Grouped groupKey done res) : (res.flatMap (·.metasByMinTime)).Perm done := by
  have byKey := List.Perm.flatMap_left res grouped.members
  have regrouped : (res.flatMap fun group => withKey groupKey done group.key) =
      (res.map (·.key)).flatMap (withKey groupKey done) := (List.flatMap_map _ _ _).symm
  rw [regrouped] at byKey
  refine byKey.trans ((flatMap_withKey groupKey done _ grouped.keys_nodup).trans ?_)
  have everyKey : ∀ meta ∈ done, decide (groupKey meta.thanos ∈ res.map (·.key)) = true :=
    fun meta belongs => by
      obtain ⟨group, present, key⟩ := grouped.covers meta belongs
      simpa using ⟨group, present, key⟩
  rw [List.filter_eq_self.mpr everyKey]

/-- Two visited blocks share a group exactly when they share a key. -/
theorem Grouped.same_group_iff {done : List Meta} {res : List Group}
    (grouped : Grouped groupKey done res) {first second : Meta} (firstIn : first ∈ done)
    (secondIn : second ∈ done) :
    (∃ group ∈ res, first ∈ group.metasByMinTime ∧ second ∈ group.metasByMinTime) ↔
      groupKey first.thanos = groupKey second.thanos := by
  constructor
  · rintro ⟨group, present, firstMember, secondMember⟩
    have firstKey := (grouped.members group present).subset firstMember
    have secondKey := (grouped.members group present).subset secondMember
    simp only [withKey, List.mem_filter, decide_eq_true_eq] at firstKey secondKey
    exact firstKey.2.trans secondKey.2.symm
  · intro same
    obtain ⟨group, present, key⟩ := grouped.covers first firstIn
    exact ⟨group, present, (grouped.member groupKey present firstIn key.symm).1,
      (grouped.member groupKey present secondIn (same.symm.trans key.symm)).1⟩

/-- The keys of sorted groups with distinct keys are strictly ascending. -/
theorem sorted_keys (res : List Group) (nodup : (res.map (·.key)).Nodup) :
    ((sortSlice.sortBy (·.key) res).map (·.key)).Sorted (· < ·) := by
  refine List.Sorted.lt_of_le (List.pairwise_map.mpr (sortSlice.sortBy_sorted _ res)) ?_
  exact ((sortSlice.sortBy_perm _ res).map _).nodup_iff.mpr nodup

/-- What `Groups` returns, when it returns groups. -/
theorem groups_eq_ok (grouper : DefaultGrouper) {blocks : List Meta} {res : List Group}
    (returned : grouper.groups sortSlice groupKey blocks = .ok res) :
    Grouped groupKey blocks res ∧ (res.map (·.key)).Sorted (· < ·) := by
  unfold DefaultGrouper.groups at returned
  split at returned
  · cases returned
  · rename_i found looped
    cases returned
    have grouped := ((grouped_nil groupKey).addBlocks sortSlice groupKey grouper
      (fun _ none => absurd none (List.not_mem_nil _)) blocks).1 found looped
    exact ⟨by simpa using grouped.perm groupKey (sortSlice.sortBy_perm _ found).symm,
      sorted_keys sortSlice found grouped.keys_nodup⟩

/-- When `Groups` fails. -/
theorem groups_error_iff (grouper : DefaultGrouper) (blocks : List Meta) :
    (∃ err, grouper.groups sortSlice groupKey blocks = .error err) ↔
      (blocks ≠ [] ∧ grouper.blockFilesConcurrency ≤ 0) ∨ ¬ Consistent groupKey blocks := by
  have failed : (∃ err, grouper.groups sortSlice groupKey blocks = .error err) ↔
      ¬ ∃ res, grouper.addBlocks sortSlice groupKey [] blocks = .ok res := by
    unfold DefaultGrouper.groups
    cases grouper.addBlocks sortSlice groupKey [] blocks <;> simp
  have loop := (grouped_nil groupKey).addBlocks sortSlice groupKey grouper
    (fun _ none => absurd none (List.not_mem_nil _)) blocks
  rw [failed]
  by_cases positive : 0 < grouper.blockFilesConcurrency
  · simpa [show ¬ grouper.blockFilesConcurrency ≤ 0 by omega] using (loop.2 positive).not
  · cases blocks with
    | nil => simp [DefaultGrouper.addBlocks, Consistent]
    | cons meta rest =>
        refine iff_of_true (fun ⟨res, returned⟩ => ?_) (Or.inl ⟨by simp, by omega⟩)
        obtain ⟨succeeds, -⟩ := (grouped_nil groupKey).addBlock sortSlice groupKey grouper meta
        unfold DefaultGrouper.addBlocks at returned
        split at returned
        · cases returned
        · rename_i next added
          obtain ⟨-, ⟨group, present, -⟩ | positive'⟩ := succeeds.mp ⟨next, added⟩
          · exact absurd present (List.not_mem_nil _)
          · exact positive positive'

/--
`Groups` fails exactly when there are blocks and `blockFilesConcurrency <= 0`,
or two blocks share a key but not their labels or resolution.  Otherwise the
keys of its groups are strictly ascending, two blocks share a group exactly
when they share a key, every block lies in exactly one group once, no other
meta does, and each group's labels and resolution are those of its members.
-/
theorem groups_partition_blocks (grouper : DefaultGrouper) (blocks : List Meta) :
    ((∃ err, grouper.groups sortSlice groupKey blocks = .error err) ↔
      (blocks ≠ [] ∧ grouper.blockFilesConcurrency ≤ 0) ∨
        ∃ first ∈ blocks, ∃ second ∈ blocks, groupKey first.thanos = groupKey second.thanos ∧
          (first.thanos.labels ≠ second.thanos.labels ∨
            first.thanos.resolution ≠ second.thanos.resolution)) ∧
      ∀ res, grouper.groups sortSlice groupKey blocks = .ok res →
        (res.map (·.key)).Sorted (· < ·) ∧
          (∀ first ∈ blocks, ∀ second ∈ blocks,
            (∃ group ∈ res, first ∈ group.metasByMinTime ∧ second ∈ group.metasByMinTime) ↔
              groupKey first.thanos = groupKey second.thanos) ∧
          (res.flatMap (·.metasByMinTime)).Perm blocks ∧
          ∀ group ∈ res, ∀ meta ∈ group.metasByMinTime,
            group.labels = meta.thanos.labels ∧ group.resolution = meta.thanos.resolution := by
  refine ⟨(groups_error_iff sortSlice groupKey grouper blocks).trans ?_, fun res returned => ?_⟩
  · simp only [Consistent, Thanos.ext_iff, not_forall, not_and_or, exists_prop]
  · obtain ⟨grouped, sorted⟩ := groups_eq_ok sortSlice groupKey grouper returned
    refine ⟨sorted, fun first firstIn second secondIn => grouped.same_group_iff groupKey firstIn secondIn,
      grouped.flatMap_perm groupKey, fun group present meta member => ?_⟩
    exact ⟨((grouped.formed group present).labels_eq meta member).symm,
      ((grouped.formed group present).resolution_eq meta member).symm⟩

/-! ## Order within a group -/

/-- The order the spec asks of `metasByMinTime`: by `MinTime`, then by ULID. -/
def ByMinTimeThenUlid (left right : Meta) : Prop :=
  left.minTime.toInt < right.minTime.toInt ∨
    (left.minTime.toInt = right.minTime.toInt ∧ left.ulid < right.ulid)

instance (left right : Meta) : Decidable (ByMinTimeThenUlid left right) :=
  inferInstanceAs (Decidable (_ ∨ _))

/--
Every group lists its blocks by `MinTime`.  For two iteration orders of the same
blocks and any two behaviours of `sort.Slice` on equal keys, `Groups` returns
groups with the same keys in the same order, and the groups of one key hold the
same blocks with the same sequence of `MinTime`s: only blocks of equal
`MinTime` may come in another order.
-/
theorem groups_order_up_to_equal_min_times (grouper : DefaultGrouper) (sortSlice' : SortSlice)
    (blocks reordered : List Meta) (permuted : blocks.Perm reordered) (res res' : List Group)
    (grouped : grouper.groups sortSlice groupKey blocks = .ok res)
    (regrouped : grouper.groups sortSlice' groupKey reordered = .ok res') :
    (∀ group ∈ res, group.metasByMinTime.Sorted ByMinTime) ∧
      res.map (·.key) = res'.map (·.key) ∧
      ∀ group ∈ res, ∀ group' ∈ res', group.key = group'.key →
        group.metasByMinTime.Perm group'.metasByMinTime ∧
          group.metasByMinTime.map (·.minTime.toInt) =
            group'.metasByMinTime.map (·.minTime.toInt) := by
  obtain ⟨first, firstSorted⟩ := groups_eq_ok sortSlice groupKey grouper grouped
  obtain ⟨second, secondSorted⟩ := groups_eq_ok sortSlice' groupKey grouper regrouped
  have sameKeys : ∀ key, key ∈ res.map (·.key) ↔ key ∈ res'.map (·.key) := by
    have keyOf : ∀ {done : List Meta} {groups : List Group}, Grouped groupKey done groups →
        ∀ key, key ∈ groups.map (·.key) ↔ ∃ meta ∈ done, groupKey meta.thanos = key :=
      fun grouped key => ⟨fun present => by
          obtain ⟨group, belongs, rfl⟩ := List.mem_map.mp present
          exact grouped.witness groupKey belongs,
        fun ⟨meta, belongs, same⟩ => by
          obtain ⟨group, present, key⟩ := grouped.covers meta belongs
          exact List.mem_map.mpr ⟨group, present, key.trans same⟩⟩
    intro key
    rw [keyOf first, keyOf second]
    exact exists_congr fun meta => and_congr_left fun _ => permuted.mem_iff
  refine ⟨fun group present => (first.formed group present).sorted,
    List.eq_of_perm_of_sorted ((List.perm_ext_iff_of_nodup first.keys_nodup second.keys_nodup).mpr
      sameKeys) firstSorted secondSorted, fun group present group' present' same => ?_⟩
  have members : group.metasByMinTime.Perm group'.metasByMinTime := by
    refine (first.members group present).trans ?_
    rw [same]
    exact (permuted.filter _).trans (second.members group' present').symm
  have firstTimes : (group.metasByMinTime.map (·.minTime.toInt)).Sorted (· ≤ ·) :=
    List.pairwise_map.mpr (first.formed group present).sorted
  have secondTimes : (group'.metasByMinTime.map (·.minTime.toInt)).Sorted (· ≤ ·) :=
    List.pairwise_map.mpr (second.formed group' present').sorted
  exact ⟨members, List.eq_of_perm_of_sorted (members.map _) firstTimes secondTimes⟩

/-- Two iteration orders of two blocks of one key give groups of the same keys. -/
theorem groups_order_up_to_equal_min_times_of_swap :
    ∃ res res',
      (⟨false, false, 1, 1⟩ : DefaultGrouper).groups insertionSortSlice (fun _ => "0@group")
          [⟨⟨1, Int64.ofInt 0, Int64.ofInt 1, 1, 1, [1]⟩, ⟨[], Int64.ofInt 0⟩⟩,
            ⟨⟨2, Int64.ofInt 0, Int64.ofInt 1, 1, 1, [2]⟩, ⟨[], Int64.ofInt 0⟩⟩] = .ok res ∧
        (⟨false, false, 1, 1⟩ : DefaultGrouper).groups insertionSortSlice (fun _ => "0@group")
          [⟨⟨2, Int64.ofInt 0, Int64.ofInt 1, 1, 1, [2]⟩, ⟨[], Int64.ofInt 0⟩⟩,
            ⟨⟨1, Int64.ofInt 0, Int64.ofInt 1, 1, 1, [1]⟩, ⟨[], Int64.ofInt 0⟩⟩] = .ok res' ∧
        res.map (·.key) = res'.map (·.key) :=
  have permuted : List.Perm
      ([⟨⟨1, Int64.ofInt 0, Int64.ofInt 1, 1, 1, [1]⟩, ⟨[], Int64.ofInt 0⟩⟩,
        ⟨⟨2, Int64.ofInt 0, Int64.ofInt 1, 1, 1, [2]⟩, ⟨[], Int64.ofInt 0⟩⟩] : List Meta)
      [⟨⟨2, Int64.ofInt 0, Int64.ofInt 1, 1, 1, [2]⟩, ⟨[], Int64.ofInt 0⟩⟩,
        ⟨⟨1, Int64.ofInt 0, Int64.ofInt 1, 1, 1, [1]⟩, ⟨[], Int64.ofInt 0⟩⟩] :=
    List.Perm.swap _ _ []
  ⟨_, _, rfl, rfl, (groups_order_up_to_equal_min_times insertionSortSlice (fun _ => "0@group")
    ⟨false, false, 1, 1⟩ insertionSortSlice _ _ permuted _ _ rfl rfl).2.1⟩

/--
Blocks of equal `MinTime` are not ordered by ULID: visited in the order 2, 1,
two blocks of one key and one `MinTime` stay in that order in their group.
-/
theorem groups_ties_follow_iteration_order :
    ∃ res,
      (⟨false, false, 1, 1⟩ : DefaultGrouper).groups insertionSortSlice (fun _ => "0@group")
          [⟨⟨2, Int64.ofInt 0, Int64.ofInt 1, 1, 1, [2]⟩, ⟨[], Int64.ofInt 0⟩⟩,
            ⟨⟨1, Int64.ofInt 0, Int64.ofInt 1, 1, 1, [1]⟩, ⟨[], Int64.ofInt 0⟩⟩] = .ok res ∧
        ∃ group ∈ res, ¬ group.metasByMinTime.Sorted ByMinTimeThenUlid :=
  ⟨_, rfl, _, List.mem_singleton_self _, by decide⟩

end Grouping

end Thanos.Compact.Grouper
