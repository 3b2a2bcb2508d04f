import Thanos.Compact.GroupCompaction

/-!
# The phases of a group compaction

What each phase of `Group.compact` appends to the trace.  The calls are sorted
by the phase that makes them: the download fan-out, the merge, the loop over
the output blocks and `Group.deleteBlock`.  `Adds kind trace after` says that
`after` is `trace` followed by calls of one kind; every phase adds only its
own kind of call, and a phase that succeeds has made the calls the next phase
relies on.  For each function with several exits, one `_cases` lemma lists
its exits with the calls and the result of each.
-/

namespace Thanos.Compact.CompactionPhases

open Thanos.Compact.Primitives
open Thanos.Compact.Errors
open Thanos.Compact.Metadata
open Thanos.Compact.CompactionGroup
open Thanos.Compact.Collaborators
open Thanos.Compact.GroupCompaction

/-! ## Kinds of calls -/

/-- Calls of the download fan-out. -/
def VerificationCall : Event → Prop
  | .download _ _ | .gatherIndexHealthStats _ _ => True
  | _ => False

/-- Calls of `Group.deleteBlock` on one of `ids`. -/
def DeletionCall (ids : List Ulid) : Event → Prop
  | .removeAll id _ | .canDelete id _ | .markForDeletion id _ _ => id ∈ ids
  | _ => False

/-- Calls checking the output block `compID` before its upload. -/
def ValidationCall (compID : Ulid) : Event → Prop
  | .removeTombstones id _ | .readFromDir id _ | .gatherIndexHealthStats id _
  | .injectThanos id _ => id = compID
  | _ => False

/-- Calls of the loop over the output blocks. -/
def OutputCall : Event → Prop
  | .removeTombstones _ _ | .readFromDir _ _ | .gatherIndexHealthStats _ _ | .injectThanos _ _
  | .upload _ _ | .postCompactionCallback _ _ => True
  | _ => False

/-- Calls made by `Group.compactPlan` on the plan `toCompact`. -/
def PlanCall (toCompact : List Meta) : Event → Prop
  | .preCompactionCallback planned _ => planned = toCompact
  | .getBlockPopulator _ => True
  | .compact dirs _ => dirs = toCompact.map (·.ulid)
  | ev => VerificationCall ev ∨ OutputCall ev ∨ DeletionCall (toCompact.map (·.ulid)) ev

theorem PlanCall.of_verification {toCompact : List Meta} {ev : Event}
    (verification : VerificationCall ev) : PlanCall toCompact ev := by
  cases ev <;> first | exact .inl verification | exact verification.elim

theorem PlanCall.of_output {toCompact : List Meta} {ev : Event} (output : OutputCall ev) :
    PlanCall toCompact ev := by
  cases ev <;> first | exact .inr (.inl output) | exact output.elim

theorem PlanCall.of_deletion {toCompact : List Meta} {ev : Event}
    (deletion : DeletionCall (toCompact.map (·.ulid)) ev) : PlanCall toCompact ev := by
  cases ev <;> first | exact .inr (.inr deletion) | exact deletion.elim

theorem ValidationCall.outputCall {compID : Ulid} {ev : Event} (validation : ValidationCall compID ev) :
    OutputCall ev := by
  cases ev <;> trivial

theorem DeletionCall.mono {ids ids' : List Ulid} (subset : ∀ id ∈ ids, id ∈ ids') {ev : Event}
    (deletion : DeletionCall ids ev) : DeletionCall ids' ev := by
  cases ev <;> first | exact subset _ deletion | exact deletion

theorem ValidationCall.not_deletion {compID : Ulid} {ids : List Ulid} {ev : Event}
    (validation : ValidationCall compID ev) : ¬ DeletionCall ids ev := by
  cases ev <;> first | exact fun deletion => deletion | exact validation.elim

theorem ValidationCall.unique {compID compID' : Ulid} {ev : Event} (first : ValidationCall compID ev)
    (second : ValidationCall compID' ev) : compID = compID' := by
  cases ev <;> first | exact first.symm.trans second | exact first.elim

/-- `after` is `trace` followed by calls that are all of `kind`. -/
def Adds (kind : Event → Prop) (trace after : Trace) : Prop :=
  ∃ added, after = trace ++ added ∧ ∀ ev ∈ added, kind ev

namespace Adds

variable {kind : Event → Prop} {trace middle after : Trace}

theorem refl : Adds kind trace trace :=
  ⟨[], by simp, by simp⟩

theorem single {ev : Event} (h : kind ev) : Adds kind trace (trace ++ [ev]) :=
  ⟨[ev], rfl, by simpa using h⟩

theorem trans (first : Adds kind trace middle) (second : Adds kind middle after) :
    Adds kind trace after := by
  obtain ⟨added, rfl, kinds⟩ := first
  obtain ⟨added', rfl, kinds'⟩ := second
  exact ⟨added ++ added', by simp, fun ev mem => (List.mem_append.mp mem).elim (kinds ev) (kinds' ev)⟩

theorem mono {kind' : Event → Prop} (weaker : ∀ ev, kind ev → kind' ev)
    (adds : Adds kind trace after) : Adds kind' trace after := by
  obtain ⟨added, rfl, kinds⟩ := adds
  exact ⟨added, rfl, fun ev mem => weaker ev (kinds ev mem)⟩

end Adds

section Phases

variable (backend : Backend) (cg : Group)

/-! ## The download fan-out -/

theorem verifyBlock_adds (trace : Trace) (meta : Meta) :
    Adds VerificationCall trace (verifyBlock backend cg trace meta).1 := by
  simp only [verifyBlock]
  split
  · exact .single trivial
  · split <;> exact (Adds.single trivial).trans (.single trivial)

theorem verifyBlocks_adds (trace : Trace) (order : List Meta) :
    Adds VerificationCall trace (verifyBlocks backend cg trace order).1 := by
  induction order generalizing trace with
  | nil => exact .refl
  | cons meta rest ih => exact (verifyBlock_adds backend cg trace meta).trans (ih _)

/-! ## The merge -/

/-- The exits of the merge. -/
theorem mergeBlocks_cases (trace : Trace) (dirs : List Ulid) :
    (∃ err, mergeBlocks backend cg trace dirs = (trace ++ [.getBlockPopulator (some err)],
      .error (halt (.wrap s!"compact blocks {dirs}" err)))) ∨
    (∃ err, mergeBlocks backend cg trace dirs =
      (trace ++ [.getBlockPopulator none, .compact dirs (.error err)],
        .error (halt (.wrap s!"compact blocks {dirs}" err)))) ∨
    ∃ compIDs, mergeBlocks backend cg trace dirs =
      (trace ++ [.getBlockPopulator none, .compact dirs (.ok compIDs)], .ok compIDs) := by
  rcases populated : backend.compactionLifecycleCallback.getBlockPopulator trace cg with _ | err
  · rcases merged : backend.comp.compactWithBlockPopulator (trace ++ [.getBlockPopulator none]) dirs
      with err | compIDs
    · exact .inr (.inl ⟨err, by simp [mergeBlocks, populated, merged]⟩)
    · exact .inr (.inr ⟨compIDs, by simp [mergeBlocks, populated, merged]⟩)
  · exact .inl ⟨err, by simp [mergeBlocks, populated]⟩

theorem mergeBlocks_eq_ok {trace merged : Trace} {dirs compIDs : List Ulid}
    (merged_eq : mergeBlocks backend cg trace dirs = (merged, .ok compIDs)) :
    merged = trace ++ [.getBlockPopulator none, .compact dirs (.ok compIDs)] := by
  rcases mergeBlocks_cases backend cg trace dirs with ⟨_, ran⟩ | ⟨_, ran⟩ | ⟨_, ran⟩ <;>
    rw [merged_eq, Prod.mk.injEq] at ran
  · cases ran.2
  · cases ran.2
  · rw [ran.1, Except.ok.inj ran.2]

/-! ## Deleting source blocks -/

/-- The exits of `Group.deleteBlock`. -/
theorem deleteBlock_cases (trace : Trace) (id : Ulid) :
    (∃ err, deleteBlock backend cg trace id =
      (trace ++ [.removeAll id (some err)], some (.wrap s!"remove old block dir {id}" err))) ∨
    deleteBlock backend cg trace id = (trace ++ [.removeAll id none, .canDelete id false], none) ∨
    ∃ marked, deleteBlock backend cg trace id =
      (trace ++ [.removeAll id none, .canDelete id true,
          .markForDeletion id "source of compacted block" marked],
        marked.map fun err => .wrap s!"mark block {id} for deletion from bucket" err) := by
  rcases removed : backend.io.removeAll trace id with _ | err
  · cases allowed : backend.blockDeletableChecker.canDelete (trace ++ [.removeAll id none]) cg id
    · exact .inr (.inl (by simp [deleteBlock, removed, allowed]))
    · exact .inr (.inr ⟨backend.io.markForDeletion
        (trace ++ [.removeAll id none, .canDelete id true]) id "source of compacted block",
        by simp [deleteBlock, removed, allowed]⟩)
  · exact .inl ⟨err, by simp [deleteBlock, removed]⟩

theorem deleteBlock_adds (trace : Trace) (id : Ulid) :
    Adds (DeletionCall [id]) trace (deleteBlock backend cg trace id).1 := by
  rcases deleteBlock_cases backend cg trace id with ⟨_, ran⟩ | ran | ⟨_, ran⟩ <;> rw [ran] <;>
    exact ⟨_, rfl, by simp [DeletionCall]⟩

theorem deleteEmptySources_adds (trace : Trace) (toCompact : List Meta) :
    Adds (DeletionCall ((toCompact.filter (·.numSamples = 0)).map (·.ulid))) trace
      (deleteEmptySources backend cg trace toCompact) := by
  induction toCompact generalizing trace with
  | nil => exact .refl
  | cons meta rest ih =>
    simp only [deleteEmptySources]
    split_ifs with empty
    · exact ((deleteBlock_adds backend cg trace meta.ulid).mono fun _ =>
        DeletionCall.mono (by simp [empty])).trans ((ih _).mono fun _ =>
          DeletionCall.mono fun id mem => by simp_all [List.filter_cons])
    · exact (ih trace).mono fun _ => DeletionCall.mono (by simp [List.filter_cons, empty])

theorem markSourcesForDeletion_adds (trace : Trace) (toCompact : List Meta) :
    Adds (DeletionCall (toCompact.map (·.ulid))) trace
      (markSourcesForDeletion backend cg trace toCompact).1 := by
  induction toCompact generalizing trace with
  | nil => exact .refl
  | cons meta rest ih =>
    have first := (deleteBlock_adds backend cg trace meta.ulid).mono fun _ =>
      @DeletionCall.mono _ ((meta :: rest).map (·.ulid)) (by simp) _
    simp only [markSourcesForDeletion]
    split
    · exact first
    · exact first.trans ((ih _).mono fun _ => DeletionCall.mono fun _ mem => by simp_all)

/-- A marking loop that succeeded asked the checker about every planned block
and marked every block it was allowed to. -/
theorem markSourcesForDeletion_eq_none {trace marked : Trace} {toCompact : List Meta}
    (ran : markSourcesForDeletion backend cg trace toCompact = (marked, none)) :
    ∃ added, marked = trace ++ added ∧ ∀ meta ∈ toCompact, ∃ allowed,
      .canDelete meta.ulid allowed ∈ added ∧
        (allowed = true → .markForDeletion meta.ulid "source of compacted block" none ∈ added) := by
  induction toCompact generalizing trace with
  | nil => exact ⟨[], by simpa [markSourcesForDeletion] using ran.symm, by simp⟩
  | cons meta rest ih =>
    rcases deleteBlock_cases backend cg trace meta.ulid with ⟨_, deleted⟩ | deleted | ⟨_ | _, deleted⟩ <;>
      simp only [markSourcesForDeletion, deleted, Option.map_none', Option.map_some'] at ran
    · cases ran
    · obtain ⟨added, rfl, later⟩ := ih ran
      refine ⟨_ ++ added, List.append_assoc _ _ _, ?_⟩
      simp only [List.forall_mem_cons]
      exact ⟨⟨false, by simp⟩, fun other mem => (later other mem).imp fun _ => by simp_all⟩
    · obtain ⟨added, rfl, later⟩ := ih ran
      refine ⟨_ ++ added, List.append_assoc _ _ _, ?_⟩
      simp only [List.forall_mem_cons]
      exact ⟨⟨true, by simp⟩, fun other mem => (later other mem).imp fun _ => by simp_all⟩
    · cases ran

/-- A failed marking call ends the marking loop with its error. -/
theorem markSourcesForDeletion_of_failed_mark {trace added : Trace} {toCompact : List Meta}
    {id : Ulid} {details : String} {err : Error}
    (ran : (markSourcesForDeletion backend cg trace toCompact).1 = trace ++ added)
    (failed : .markForDeletion id details (some err) ∈ added) :
    (markSourcesForDeletion backend cg trace toCompact).2 =
      some (retry (.wrap "mark old block for deletion from bucket"
        (.wrap s!"mark block {id} for deletion from bucket" err))) := by
  induction toCompact generalizing trace added with
  | nil => simp_all [markSourcesForDeletion]
  | cons meta rest ih =>
    rcases deleteBlock_cases backend cg trace meta.ulid with ⟨_, deleted⟩ | deleted | ⟨_ | _, deleted⟩ <;>
      simp only [markSourcesForDeletion, deleted, Option.map_none', Option.map_some'] at ran ⊢
    · simp only [List.append_cancel_left_eq] at ran
      simp [← ran] at failed
    · obtain ⟨later, extends_, -⟩ := markSourcesForDeletion_adds backend cg
        (trace ++ [.removeAll meta.ulid none, .canDelete meta.ulid false]) rest
      rw [extends_, List.append_assoc, List.append_cancel_left_eq] at ran
      subst ran
      exact ih extends_ (by simpa using failed)
    · obtain ⟨later, extends_, -⟩ := markSourcesForDeletion_adds backend cg
        (trace ++ [.removeAll meta.ulid none, .canDelete meta.ulid true,
          .markForDeletion meta.ulid "source of compacted block" none]) rest
      rw [extends_, List.append_assoc, List.append_cancel_left_eq] at ran
      subst ran
      exact ih extends_ (by simpa using failed)
    · simp only [List.append_cancel_left_eq] at ran
      simp only [← ran, List.mem_cons, reduceCtorEq, Event.markForDeletion.injEq, Option.some.injEq,
        List.not_mem_nil, false_or, or_false] at failed
      obtain ⟨rfl, -, rfl⟩ := failed
      rfl

/-- A marking loop that failed ended on a call of `Group.deleteBlock`. -/
theorem markSourcesForDeletion_last_of_failed {trace marked : Trace} {toCompact : List Meta}
    {err : Error} (ran : markSourcesForDeletion backend cg trace toCompact = (marked, some err)) :
    ∃ last, marked.getLast? = some last ∧ DeletionCall (toCompact.map (·.ulid)) last := by
  induction toCompact generalizing trace with
  | nil => cases ran
  | cons meta rest ih =>
    rcases deleteBlock_cases backend cg trace meta.ulid with ⟨_, deleted⟩ | deleted | ⟨_ | _, deleted⟩ <;>
      simp only [markSourcesForDeletion, deleted, Option.map_none', Option.map_some',
        Prod.mk.injEq] at ran
    · exact ⟨_, by rw [← ran.1, List.getLast?_concat], by simp [DeletionCall]⟩
    · obtain ⟨last, ended, deletion⟩ := ih ran
      exact ⟨last, ended, deletion.mono fun _ mem => by simp_all⟩
    · obtain ⟨last, ended, deletion⟩ := ih ran
      exact ⟨last, ended, deletion.mono fun _ mem => by simp_all⟩
    · exact ⟨_, by rw [← ran.1]; simp; rfl, by simp [DeletionCall]⟩

/-! ## The output blocks -/

theorem finalizeCompactedBlock_adds (toCompact : List Meta) (trace : Trace) (compID : Ulid)
    (newMeta : Meta) :
    Adds (ValidationCall compID) trace
      (finalizeCompactedBlock backend cg toCompact trace compID newMeta).1 := by
  simp only [finalizeCompactedBlock]
  split
  · exact .single rfl
  · split
    · refine (Adds.single ?_).trans (.single ?_) <;> rfl
    · split <;> refine (Adds.single ?_).trans (.single ?_) <;> rfl

theorem validateCompactedBlock_adds (toCompact : List Meta) (trace : Trace) (compID : Ulid) :
    Adds (ValidationCall compID) trace (validateCompactedBlock backend cg toCompact trace compID).1 := by
  simp only [validateCompactedBlock]
  split
  · exact .single rfl
  · split
    · refine (Adds.single ?_).trans (.single ?_) <;> rfl
    · refine (Adds.single ?_).trans ((Adds.single ?_).trans (finalizeCompactedBlock_adds ..)) <;> rfl

/-- The exits of one iteration of the loop over the output blocks. -/
theorem uploadCompactedBlock_cases (toCompact : List Meta) (trace : Trace) (compID : Ulid) :
    ∃ validated, Adds (ValidationCall compID) trace validated ∧
      ((∃ err, uploadCompactedBlock backend cg toCompact trace compID = (validated, some err)) ∨
       (∃ err, uploadCompactedBlock backend cg toCompact trace compID =
          (validated ++ [.upload compID (some err)],
            some (retry (.wrap s!"upload of {compID} failed" err)))) ∨
       ∃ called, uploadCompactedBlock backend cg toCompact trace compID =
          (validated ++ [.upload compID none, .postCompactionCallback compID called],
            called.map fun err =>
              retry (.wrap s!"failed to run post compaction callback for result block {compID}" err))) := by
  have adds := validateCompactedBlock_adds backend cg toCompact trace compID
  rcases validated : validateCompactedBlock backend cg toCompact trace compID with ⟨checked, _ | err⟩ <;>
    rw [validated] at adds
  · refine ⟨checked, adds, .inr ?_⟩
    rcases uploaded : backend.io.upload checked compID with _ | err
    · exact .inr ⟨backend.compactionLifecycleCallback.postCompactionCallback
        (checked ++ [.upload compID none]) cg compID, by simp [uploadCompactedBlock, validated, uploaded]⟩
    · exact .inl ⟨err, by simp [uploadCompactedBlock, validated, uploaded]⟩
  · exact ⟨checked, adds, .inl ⟨err, by simp [uploadCompactedBlock, validated]⟩⟩

theorem uploadCompactedBlock_adds (toCompact : List Meta) (trace : Trace) (compID : Ulid) :
    Adds OutputCall trace (uploadCompactedBlock backend cg toCompact trace compID).1 := by
  obtain ⟨validated, adds, ⟨_, ran⟩ | ⟨_, ran⟩ | ⟨_, ran⟩⟩ :=
    uploadCompactedBlock_cases backend cg toCompact trace compID <;> rw [ran]
  · exact adds.mono fun _ => ValidationCall.outputCall
  · exact (adds.mono fun _ => ValidationCall.outputCall).trans (.single trivial)
  · exact (adds.mono fun _ => ValidationCall.outputCall).trans ⟨_, rfl, by simp [OutputCall]⟩

theorem uploadCompactedBlocks_adds (toCompact : List Meta) (trace : Trace) (compIDs : List Ulid) :
    Adds OutputCall trace (uploadCompactedBlocks backend cg toCompact trace compIDs).1 := by
  induction compIDs generalizing trace with
  | nil => exact .refl
  | cons compID rest ih =>
    simp only [uploadCompactedBlocks]
    split
    · exact uploadCompactedBlock_adds backend cg toCompact trace compID
    · exact (uploadCompactedBlock_adds backend cg toCompact trace compID).trans (ih _)

/-- A loop over the output blocks that succeeded uploaded every one of them and
ran the post-compaction callback on it without error. -/
theorem uploadCompactedBlocks_eq_none {toCompact : List Meta} {trace uploaded : Trace}
    {compIDs : List Ulid} (ran : uploadCompactedBlocks backend cg toCompact trace compIDs = (uploaded, none)) :
    ∃ added, uploaded = trace ++ added ∧ ∀ compID ∈ compIDs,
      .upload compID none ∈ added ∧ .postCompactionCallback compID none ∈ added := by
  induction compIDs generalizing trace with
  | nil => exact ⟨[], by simpa [uploadCompactedBlocks] using ran.symm, by simp⟩
  | cons compID rest ih =>
    obtain ⟨validated, ⟨checks, rfl, -⟩, ⟨_, once⟩ | ⟨_, once⟩ | ⟨_ | _, once⟩⟩ :=
      uploadCompactedBlock_cases backend cg toCompact trace compID <;>
      simp only [uploadCompactedBlocks, once, Option.map_none', Option.map_some'] at ran
    · cases ran
    · cases ran
    · obtain ⟨added, rfl, later⟩ := ih ran
      refine ⟨checks ++ [.upload compID none, .postCompactionCallback compID none] ++ added,
        by simp, ?_⟩
      simp only [List.forall_mem_cons]
      exact ⟨by simp, fun other mem => (later other mem).imp (by simp_all) (by simp_all)⟩
    · cases ran

/-- The output blocks whose upload succeeded, in the order of the calls. -/
def uploadedBlocks (trace : Trace) : List Ulid :=
  trace.filterMap fun
    | .upload id none => some id
    | _ => none

@[simp]
theorem uploadedBlocks_append (front back : Trace) :
    uploadedBlocks (front ++ back) = uploadedBlocks front ++ uploadedBlocks back :=
  List.filterMap_append ..

theorem uploadedBlocks_of_validation {compID : Ulid} {checks : Trace}
    (checked : ∀ ev ∈ checks, ValidationCall compID ev) : uploadedBlocks checks = [] := by
  refine List.filterMap_eq_nil_iff.mpr fun ev mem => ?_
  cases ev with
  | upload => exact (checked _ mem).elim
  | _ => rfl

theorem uploadedBlocks_of_verification {fetches : Trace}
    (checked : ∀ ev ∈ fetches, VerificationCall ev) : uploadedBlocks fetches = [] := by
  refine List.filterMap_eq_nil_iff.mpr fun ev mem => ?_
  cases ev with
  | upload => exact (checked _ mem).elim
  | _ => rfl

/-- When the loop over the output blocks ends on a check of `compID` before
its upload, `compID` is its `k`-th output block for some `k`, and exactly the
`k` blocks before it were uploaded. -/
theorem uploadCompactedBlocks_of_failed_validation {toCompact : List Meta} {trace added : Trace}
    {compIDs : List Ulid} {compID : Ulid} {last : Event}
    (ran : (uploadCompactedBlocks backend cg toCompact trace compIDs).1 = trace ++ added)
    (ended : added.getLast? = some last) (validation : ValidationCall compID last) :
    ∃ k, compIDs[k]? = some compID ∧ uploadedBlocks added = compIDs.take k := by
  induction compIDs generalizing trace added with
  | nil => simp_all [uploadCompactedBlocks]
  | cons first rest ih =>
    obtain ⟨validated, ⟨checks, rfl, checked⟩, ⟨_, once⟩ | ⟨_, once⟩ | ⟨_ | _, once⟩⟩ :=
      uploadCompactedBlock_cases backend cg toCompact trace first <;>
      simp only [uploadCompactedBlocks, once, Option.map_none', Option.map_some',
        List.append_assoc, List.append_cancel_left_eq] at ran
    · subst ran
      have same := validation.unique (checked last (List.mem_of_getLast?_eq_some ended))
      exact ⟨0, by simp [same], by simp [uploadedBlocks_of_validation checked]⟩
    · subst ran
      simp only [List.getLast?_concat, Option.some.injEq] at ended
      subst ended
      exact (validation : False).elim
    · obtain ⟨later, extends_, -⟩ := uploadCompactedBlocks_adds backend cg toCompact
        (trace ++ (checks ++ [.upload first none, .postCompactionCallback first none])) rest
      rw [extends_, List.append_assoc, List.append_cancel_left_eq] at ran
      subst ran
      rcases List.eq_nil_or_concat later with rfl | ⟨init, final, rfl⟩
      · simp only [List.append_nil, List.getLast?_append, List.getLast?_cons_cons,
          List.getLast?_singleton, Option.or_some, Option.some.injEq] at ended
        subst ended
        exact (validation : False).elim
      · simp only [List.concat_eq_append, ← List.append_assoc, List.getLast?_concat] at ended
        obtain ⟨k, found, uploaded⟩ := ih extends_ (by rw [List.concat_eq_append, List.getLast?_concat, ended])
        refine ⟨k + 1, by simpa using found, ?_⟩
        rw [uploadedBlocks_append, uploadedBlocks_append, uploadedBlocks_of_validation checked, uploaded]
        rfl
    · subst ran
      simp only [List.getLast?_append, List.getLast?_cons_cons, List.getLast?_singleton,
        Option.or_some, Option.some.injEq] at ended
      subst ended
      exact (validation : False).elim

/-- A failed upload or post-compaction callback ends the loop over the output
blocks with its error. -/
theorem uploadCompactedBlocks_of_failed_call {toCompact : List Meta} {trace added : Trace}
    {compIDs : List Ulid} {compID : Ulid} {err : Error}
    (ran : (uploadCompactedBlocks backend cg toCompact trace compIDs).1 = trace ++ added) :
    (.upload compID (some err) ∈ added →
      (uploadCompactedBlocks backend cg toCompact trace compIDs).2 =
        some (retry (.wrap s!"upload of {compID} failed" err))) ∧
    (.postCompactionCallback compID (some err) ∈ added →
      (uploadCompactedBlocks backend cg toCompact trace compIDs).2 =
        some (retry (.wrap s!"failed to run post compaction callback for result block {compID}" err))) := by
  induction compIDs generalizing trace added with
  | nil => simp_all [uploadCompactedBlocks]
  | cons first rest ih =>
    obtain ⟨validated, ⟨checks, rfl, checked⟩, ⟨_, once⟩ | ⟨_, once⟩ | ⟨_ | _, once⟩⟩ :=
      uploadCompactedBlock_cases backend cg toCompact trace first <;>
      simp only [uploadCompactedBlocks, once, Option.map_none', Option.map_some',
        List.append_assoc, List.append_cancel_left_eq] at ran ⊢
    all_goals
      have noUpload : Event.upload compID (some err) ∉ checks := fun mem => (checked _ mem : False)
      have noCallback : Event.postCompactionCallback compID (some err) ∉ checks :=
        fun mem => (checked _ mem : False)
    · subst ran
      exact ⟨fun mem => (noUpload mem).elim, fun mem => (noCallback mem).elim⟩
    · subst ran
      refine ⟨fun mem => ?_, fun mem => ?_⟩ <;> simp only [List.mem_append, noUpload, noCallback,
        List.mem_singleton, Event.upload.injEq, Option.some.injEq, reduceCtorEq, false_or] at mem
      · rw [mem.1, mem.2]
    · obtain ⟨later, extends_, -⟩ := uploadCompactedBlocks_adds backend cg toCompact
        (trace ++ (checks ++ [.upload first none, .postCompactionCallback first none])) rest
      rw [extends_, List.append_assoc, List.append_cancel_left_eq] at ran
      subst ran
      refine ⟨fun mem => (ih extends_).1 ?_, fun mem => (ih extends_).2 ?_⟩ <;>
        simpa [noUpload, noCallback] using mem
    · subst ran
      refine ⟨fun mem => ?_, fun mem => ?_⟩ <;> simp only [List.mem_append, noUpload, noCallback,
        List.mem_cons, List.mem_singleton, Event.upload.injEq, Event.postCompactionCallback.injEq,
        Option.some.injEq, reduceCtorEq, false_or, and_false, List.not_mem_nil, or_false] at mem
      · rw [mem.1, mem.2]

/-! ## The ends of a compaction -/

/-- The ways `Group.compactPlan` can end, each with the phases it went through. -/
inductive PlanRun (backend : Backend) (cg : Group) (toCompact : List Meta) (trace : Trace) :
    Trace × Except Error (Bool × List Ulid) → Prop
  /-- `PreCompactionCallback` refused the plan. -/
  | refused {err : Error}
      (checked : backend.compactionLifecycleCallback.preCompactionCallback trace cg toCompact = some err) :
      PlanRun backend cg toCompact trace (trace ++ [.preCompactionCallback toCompact (some err)],
        .error (.wrap s!"failed to run pre compaction callback for plan: {toCompact.map (·.ulid)}" err))
  /-- A goroutine of the download fan-out failed. -/
  | unverified {verified : Trace} {err : Error}
      (checked : backend.compactionLifecycleCallback.preCompactionCallback trace cg toCompact = none)
      (failed : verifyBlocks backend cg (trace ++ [.preCompactionCallback toCompact none])
        (backend.schedule.order (trace ++ [.preCompactionCallback toCompact none]) toCompact) =
          (verified, some err)) :
      PlanRun backend cg toCompact trace (verified, .error err)
  /-- The merge failed. -/
  | unmerged {verified merged : Trace} {err : Error}
      (checked : backend.compactionLifecycleCallback.preCompactionCallback trace cg toCompact = none)
      (fetched : verifyBlocks backend cg (trace ++ [.preCompactionCallback toCompact none])
        (backend.schedule.order (trace ++ [.preCompactionCallback toCompact none]) toCompact) =
          (verified, none))
      (failed : mergeBlocks backend cg verified (toCompact.map (·.ulid)) = (merged, .error err)) :
      PlanRun backend cg toCompact trace (merged, .error err)
  /-- The merge returned no block: the empty sources are deleted. -/
  | empty {verified merged : Trace}
      (checked : backend.compactionLifecycleCallback.preCompactionCallback trace cg toCompact = none)
      (fetched : verifyBlocks backend cg (trace ++ [.preCompactionCallback toCompact none])
        (backend.schedule.order (trace ++ [.preCompactionCallback toCompact none]) toCompact) =
          (verified, none))
      (compacted : mergeBlocks backend cg verified (toCompact.map (·.ulid)) = (merged, .ok [])) :
      PlanRun backend cg toCompact trace (deleteEmptySources backend cg merged toCompact, .ok (true, []))
  /-- An output block failed a check, its upload or its post-compaction callback. -/
  | unuploaded {verified merged uploaded : Trace} {compIDs : List Ulid} {err : Error}
      (checked : backend.compactionLifecycleCallback.preCompactionCallback trace cg toCompact = none)
      (fetched : verifyBlocks backend cg (trace ++ [.preCompactionCallback toCompact none])
        (backend.schedule.order (trace ++ [.preCompactionCallback toCompact none]) toCompact) =
          (verified, none))
      (compacted : mergeBlocks backend cg verified (toCompact.map (·.ulid)) = (merged, .ok compIDs))
      (produced : compIDs ≠ [])
      (failed : uploadCompactedBlocks backend cg toCompact merged compIDs = (uploaded, some err)) :
      PlanRun backend cg toCompact trace (uploaded, .error err)
  /-- Marking a planned block for deletion failed. -/
  | unmarked {verified merged uploaded marked : Trace} {compIDs : List Ulid} {err : Error}
      (checked : backend.compactionLifecycleCallback.preCompactionCallback trace cg toCompact = none)
      (fetched : verifyBlocks backend cg (trace ++ [.preCompactionCallback toCompact none])
        (backend.schedule.order (trace ++ [.preCompactionCallback toCompact none]) toCompact) =
          (verified, none))
      (compacted : mergeBlocks backend cg verified (toCompact.map (·.ulid)) = (merged, .ok compIDs))
      (produced : compIDs ≠ [])
      (published : uploadCompactedBlocks backend cg toCompact merged compIDs = (uploaded, none))
      (failed : markSourcesForDeletion backend cg uploaded toCompact = (marked, some err)) :
      PlanRun backend cg toCompact trace (marked, .error err)
  /-- Every phase succeeded. -/
  | succeeded {verified merged uploaded marked : Trace} {compIDs : List Ulid}
      (checked : backend.compactionLifecycleCallback.preCompactionCallback trace cg toCompact = none)
      (fetched : verifyBlocks backend cg (trace ++ [.preCompactionCallback toCompact none])
        (backend.schedule.order (trace ++ [.preCompactionCallback toCompact none]) toCompact) =
          (verified, none))
      (compacted : mergeBlocks backend cg verified (toCompact.map (·.ulid)) = (merged, .ok compIDs))
      (produced : compIDs ≠ [])
      (published : uploadCompactedBlocks backend cg toCompact merged compIDs = (uploaded, none))
      (deleted : markSourcesForDeletion backend cg uploaded toCompact = (marked, none)) :
      PlanRun backend cg toCompact trace (marked, .ok (true, compIDs))

theorem compactPlan_run (trace : Trace) (toCompact : List Meta) :
    PlanRun backend cg toCompact trace (Group.compactPlan backend cg trace toCompact) := by
  rcases checked : backend.compactionLifecycleCallback.preCompactionCallback trace cg toCompact
    with _ | err
  · rcases fetched : verifyBlocks backend cg (trace ++ [.preCompactionCallback toCompact none])
        (backend.schedule.order (trace ++ [.preCompactionCallback toCompact none]) toCompact)
      with ⟨verified, _ | err⟩
    · rcases compacted : mergeBlocks backend cg verified (toCompact.map (·.ulid))
        with ⟨merged, err | _ | ⟨compID, rest⟩⟩
      · simpa [Group.compactPlan, checked, fetched, compacted] using
          PlanRun.unmerged checked fetched compacted
      · simpa [Group.compactPlan, checked, fetched, compacted] using
          PlanRun.empty checked fetched compacted
      · rcases published : uploadCompactedBlocks backend cg toCompact merged (compID :: rest)
          with ⟨uploaded, _ | err⟩
        · rcases deleted : markSourcesForDeletion backend cg uploaded toCompact
            with ⟨marked, _ | err⟩
          · simpa [Group.compactPlan, checked, fetched, compacted, published, deleted] using
              PlanRun.succeeded checked fetched compacted (List.cons_ne_nil _ _) published deleted
          · simpa [Group.compactPlan, checked, fetched, compacted, published, deleted] using
              PlanRun.unmarked checked fetched compacted (List.cons_ne_nil _ _) published deleted
        · simpa [Group.compactPlan, checked, fetched, compacted, published] using
            PlanRun.unuploaded checked fetched compacted (List.cons_ne_nil _ _) published
    · simpa [Group.compactPlan, checked, fetched] using PlanRun.unverified checked fetched
  · simpa [Group.compactPlan, checked] using PlanRun.refused checked

/-- A run from a plan makes only calls on that plan. -/
theorem PlanRun.adds {toCompact : List Meta} {trace : Trace}
    {run : Trace × Except Error (Bool × List Ulid)} (ran : PlanRun backend cg toCompact trace run) :
    Adds (PlanCall toCompact) trace run.1 := by
  have verify : ∀ {verified : Trace} {result : Option Error},
      verifyBlocks backend cg (trace ++ [.preCompactionCallback toCompact none])
        (backend.schedule.order (trace ++ [.preCompactionCallback toCompact none]) toCompact) =
          (verified, result) → Adds (PlanCall toCompact) trace verified := fun fetched =>
    (Adds.single (show PlanCall toCompact (.preCompactionCallback toCompact none) from rfl)).trans
      ((congrArg Prod.fst fetched ▸ verifyBlocks_adds backend cg _ _).mono
      fun _ => PlanCall.of_verification)
  have merge : ∀ {verified merged : Trace} {result : Except Error (List Ulid)},
      mergeBlocks backend cg verified (toCompact.map (·.ulid)) = (merged, result) →
        Adds (PlanCall toCompact) verified merged := by
    intro verified merged result compacted
    rcases mergeBlocks_cases backend cg verified (toCompact.map (·.ulid)) with
      ⟨_, once⟩ | ⟨_, once⟩ | ⟨_, once⟩ <;> rw [compacted, Prod.mk.injEq] at once <;> rw [once.1] <;>
      exact ⟨_, rfl, by simp [PlanCall]⟩
  have upload : ∀ {merged uploaded : Trace} {compIDs : List Ulid} {result : Option Error},
      uploadCompactedBlocks backend cg toCompact merged compIDs = (uploaded, result) →
        Adds (PlanCall toCompact) merged uploaded := fun published =>
    (congrArg Prod.fst published ▸ uploadCompactedBlocks_adds backend cg toCompact _ _).mono
      fun _ => PlanCall.of_output
  have mark : ∀ {uploaded marked : Trace} {result : Option Error},
      markSourcesForDeletion backend cg uploaded toCompact = (marked, result) →
        Adds (PlanCall toCompact) uploaded marked := fun deleted =>
    (congrArg Prod.fst deleted ▸ markSourcesForDeletion_adds backend cg _ _).mono
      fun _ => PlanCall.of_deletion
  cases ran with
  | refused => exact .single rfl
  | unverified _ fetched => exact verify fetched
  | unmerged _ fetched compacted => exact (verify fetched).trans (merge compacted)
  | empty _ fetched compacted =>
    exact (verify fetched).trans ((merge compacted).trans
      ((deleteEmptySources_adds backend cg _ _).mono fun _ deletion => PlanCall.of_deletion
        (deletion.mono fun _ mem => List.map_subset _ (List.filter_subset' _) mem)))
  | unuploaded _ fetched compacted _ published =>
    exact (verify fetched).trans ((merge compacted).trans (upload published))
  | unmarked _ fetched compacted _ published deleted =>
    exact (verify fetched).trans ((merge compacted).trans ((upload published).trans (mark deleted)))
  | succeeded _ fetched compacted _ published deleted =>
    exact (verify fetched).trans ((merge compacted).trans ((upload published).trans (mark deleted)))

theorem PlanCall.not_plan {toCompact metas : List Meta} {result : Except Error (List Meta)} :
    ¬ PlanCall toCompact (.plan metas result) := by
  simp [PlanCall, VerificationCall, OutputCall, DeletionCall]

/-- A run from a plan that reached the merge passed the pre-compaction callback. -/
theorem PlanRun.checked_of_compact {toCompact : List Meta} {trace added : Trace}
    {run : Trace × Except Error (Bool × List Ulid)} {dirs : List Ulid}
    {result : Except Error (List Ulid)} (ran : PlanRun backend cg toCompact trace run)
    (extends_ : run.1 = trace ++ added) (merged : .compact dirs result ∈ added) :
    backend.compactionLifecycleCallback.preCompactionCallback trace cg toCompact = none := by
  cases ran with
  | refused =>
    simp only [List.append_cancel_left_eq] at extends_
    simp [← extends_] at merged
  | unverified checked | unmerged checked | empty checked | unuploaded checked | unmarked checked
  | succeeded checked => exact checked

/-- A run from a plan that passed the callback: the callback, then the fan-out. -/
theorem fetched_segments {trace verified : Trace} {toCompact : List Meta} {result : Option Error}
    (fetched : verifyBlocks backend cg (trace ++ [.preCompactionCallback toCompact none])
      (backend.schedule.order (trace ++ [.preCompactionCallback toCompact none]) toCompact) =
        (verified, result)) :
    ∃ fetches, verified = trace ++ .preCompactionCallback toCompact none :: fetches ∧
      ∀ ev ∈ fetches, VerificationCall ev := by
  obtain ⟨fetches, extends_, calls⟩ := verifyBlocks_adds backend cg
    (trace ++ [.preCompactionCallback toCompact none])
    (backend.schedule.order (trace ++ [.preCompactionCallback toCompact none]) toCompact)
  rw [fetched] at extends_
  exact ⟨fetches, by simpa using extends_, calls⟩

/-- A run from a plan that reached the merge: the callback, the fan-out and the merge. -/
theorem merged_segments {trace verified merged : Trace} {toCompact : List Meta}
    {result : Option Error} {compIDs : List Ulid}
    (fetched : verifyBlocks backend cg (trace ++ [.preCompactionCallback toCompact none])
      (backend.schedule.order (trace ++ [.preCompactionCallback toCompact none]) toCompact) =
        (verified, result))
    (compacted : mergeBlocks backend cg verified (toCompact.map (·.ulid)) = (merged, .ok compIDs)) :
    ∃ fetches, merged = trace ++ .preCompactionCallback toCompact none :: fetches ++
        [.getBlockPopulator none, .compact (toCompact.map (·.ulid)) (.ok compIDs)] ∧
      ∀ ev ∈ fetches, VerificationCall ev := by
  obtain ⟨fetches, rfl, calls⟩ := fetched_segments backend cg fetched
  exact ⟨fetches, by simp [mergeBlocks_eq_ok backend cg compacted], calls⟩

theorem OutputCall.not_deletion {ids : List Ulid} {ev : Event} (output : OutputCall ev) :
    ¬ DeletionCall ids ev := by
  cases ev <;> first | exact fun deletion => deletion | exact output.elim

/-- A call that an output or deletion loop could make, past the merge of a plan's
run, was made after the merge. -/
theorem mem_after_merge {trace verified merged rest added : Trace} {toCompact : List Meta}
    {result : Option Error} {compIDs ids : List Ulid} {ev : Event}
    (fetched : verifyBlocks backend cg (trace ++ [.preCompactionCallback toCompact none])
      (backend.schedule.order (trace ++ [.preCompactionCallback toCompact none]) toCompact) =
        (verified, result))
    (compacted : mergeBlocks backend cg verified (toCompact.map (·.ulid)) = (merged, .ok compIDs))
    (extends_ : merged ++ rest = trace ++ added) (mem : ev ∈ added)
    (late : ¬ VerificationCall ev) (kind : OutputCall ev ∨ DeletionCall ids ev) : ev ∈ rest := by
  obtain ⟨fetches, rfl, checks⟩ := merged_segments backend cg fetched compacted
  simp only [List.append_assoc, List.cons_append, List.nil_append,
    List.append_cancel_left_eq] at extends_
  simp only [← extends_, List.mem_cons, List.mem_append] at mem
  rcases mem with rfl | fetch | rfl | rfl | later
  exacts [kind.elim False.elim False.elim, (late (checks _ fetch)).elim,
    kind.elim False.elim False.elim, kind.elim False.elim False.elim, later]

/-- A call of a plan's run that comes after the fan-out was made by the loop
over the output blocks or by the marking loop, and when the loop that made it
failed, the run ended with that loop's error. -/
theorem PlanRun.mem_late {toCompact : List Meta} {trace added : Trace}
    {run : Trace × Except Error (Bool × List Ulid)} {ids : List Ulid} {ev : Event}
    (ran : PlanRun backend cg toCompact trace run) (extends_ : run.1 = trace ++ added)
    (mem : ev ∈ added) (late : ¬ VerificationCall ev) :
    (OutputCall ev → ∃ merged compIDs outputs,
      (uploadCompactedBlocks backend cg toCompact merged compIDs).1 = merged ++ outputs ∧
      ev ∈ outputs ∧
      ∀ err, (uploadCompactedBlocks backend cg toCompact merged compIDs).2 = some err →
        run.2 = .error err) ∧
    (DeletionCall ids ev → (∃ uploaded deletions,
      (markSourcesForDeletion backend cg uploaded toCompact).1 = uploaded ++ deletions ∧
      ev ∈ deletions ∧
      ∀ err, (markSourcesForDeletion backend cg uploaded toCompact).2 = some err →
        run.2 = .error err) ∨ ∃ result, run.2 = .ok result) := by
  by_cases kind : OutputCall ev ∨ DeletionCall ids ev
  swap
  · exact ⟨fun output => (kind (.inl output)).elim, fun deletion => (kind (.inr deletion)).elim⟩
  cases ran with
  | refused =>
    simp only [List.append_cancel_left_eq] at extends_
    simp only [← extends_, List.mem_singleton] at mem
    subst mem
    exact kind.elim False.elim False.elim
  | unverified _ fetched =>
    obtain ⟨fetches, rfl, checks⟩ := fetched_segments backend cg fetched
    simp only [List.append_cancel_left_eq] at extends_
    simp only [← extends_, List.mem_cons] at mem
    rcases mem with rfl | fetch
    exacts [kind.elim False.elim False.elim, (late (checks _ fetch)).elim]
  | unmerged _ fetched failed =>
    obtain ⟨fetches, rfl, checks⟩ := fetched_segments backend cg fetched
    rcases mergeBlocks_cases backend cg _ (toCompact.map (·.ulid)) with
      ⟨_, once⟩ | ⟨_, once⟩ | ⟨_, once⟩ <;> rw [failed, Prod.mk.injEq] at once
    · simp only [once.1, List.append_assoc, List.cons_append, List.append_cancel_left_eq] at extends_
      simp only [← extends_, List.mem_cons, List.mem_append, List.not_mem_nil, or_false] at mem
      rcases mem with rfl | fetch | rfl
      exacts [kind.elim False.elim False.elim, (late (checks _ fetch)).elim,
        kind.elim False.elim False.elim]
    · simp only [once.1, List.append_assoc, List.cons_append, List.append_cancel_left_eq] at extends_
      simp only [← extends_, List.mem_cons, List.mem_append, List.not_mem_nil, or_false] at mem
      rcases mem with rfl | fetch | rfl | rfl
      exacts [kind.elim False.elim False.elim, (late (checks _ fetch)).elim,
        kind.elim False.elim False.elim, kind.elim False.elim False.elim]
    · cases once.2
  | @empty _ merged _ fetched compacted =>
    obtain ⟨deletions, marked, kinds⟩ := deleteEmptySources_adds backend cg merged toCompact
    have deletion := mem_after_merge backend cg fetched compacted (marked ▸ extends_) mem late kind
    exact ⟨fun output => (output.not_deletion (kinds _ deletion)).elim, fun _ => .inr ⟨_, rfl⟩⟩
  | @unuploaded _ merged uploaded compIDs _ _ fetched compacted _ failed =>
    obtain ⟨outputs, loop, outputCalls⟩ :=
      uploadCompactedBlocks_adds backend cg toCompact merged compIDs
    rw [failed] at loop
    have out := mem_after_merge backend cg fetched compacted (loop ▸ extends_) mem late kind
    refine ⟨fun _ => ⟨_, _, outputs, by rw [failed, loop], out, fun err ended => ?_⟩,
      fun deletion => ((outputCalls _ out).not_deletion deletion).elim⟩
    rw [failed, Option.some.injEq] at ended
    rw [ended]
  | @unmarked _ merged uploaded marked compIDs _ _ fetched compacted _ published deleted
  | @succeeded _ merged uploaded marked compIDs _ fetched compacted _ published deleted =>
    obtain ⟨outputs, loop, outputCalls⟩ :=
      uploadCompactedBlocks_adds backend cg toCompact merged compIDs
    obtain ⟨deletions, marks, kinds⟩ := markSourcesForDeletion_adds backend cg uploaded toCompact
    rw [published] at loop
    rw [deleted] at marks
    subst marks loop
    rcases List.mem_append.mp (mem_after_merge backend cg fetched compacted
      (by rwa [List.append_assoc] at extends_) mem late kind) with out | deletion
    · refine ⟨fun _ => ⟨_, _, outputs, by rw [published], out, fun err ended => ?_⟩,
        fun deletion => ((outputCalls _ out).not_deletion deletion).elim⟩
      rw [published] at ended
      cases ended
    · refine ⟨fun output => (output.not_deletion (kinds _ deletion)).elim,
        fun _ => .inl ⟨_, deletions, by rw [deleted], deletion, fun err ended => ?_⟩⟩
      rw [deleted] at ended
      cases ended <;> rfl

/-- The ways `Group.compact` can end. -/
inductive CompactRun (backend : Backend) (cg : Group) (trace : Trace) :
    Trace × Except Error (Bool × List Ulid) → Prop
  /-- The group overlaps and vertical compaction is off. -/
  | overlapping {err : Error} (vertical : cg.enableVerticalCompaction = false)
      (overlap : cg.areBlocksOverlapping backend.sortSlice none [] = some err) :
      CompactRun backend cg trace (trace, .error (halt (.wrap "pre compaction overlap check" err)))
  /-- The planner failed. -/
  | unplanned {err : Error}
      (checked : cg.enableVerticalCompaction = true ∨
        cg.areBlocksOverlapping backend.sortSlice none [] = none)
      (failed : backend.planner.plan trace cg.metasByMinTime = .error err) :
      CompactRun backend cg trace
        (trace ++ [.plan cg.metasByMinTime (.error err)], .error (.wrap "plan compaction" err))
  /-- The planner found nothing to compact. -/
  | idle
      (checked : cg.enableVerticalCompaction = true ∨
        cg.areBlocksOverlapping backend.sortSlice none [] = none)
      (nothing : backend.planner.plan trace cg.metasByMinTime = .ok []) :
      CompactRun backend cg trace (trace ++ [.plan cg.metasByMinTime (.ok [])], .ok (false, []))
  /-- The planner returned a plan. -/
  | planned {toCompact : List Meta} {run : Trace × Except Error (Bool × List Ulid)}
      (checked : cg.enableVerticalCompaction = true ∨
        cg.areBlocksOverlapping backend.sortSlice none [] = none)
      (planned : backend.planner.plan trace cg.metasByMinTime = .ok toCompact)
      (nonempty : toCompact ≠ [])
      (ran : PlanRun backend cg toCompact (trace ++ [.plan cg.metasByMinTime (.ok toCompact)]) run) :
      CompactRun backend cg trace run

theorem compact_run (trace : Trace) : CompactRun backend cg trace (Group.compact backend cg trace) := by
  rcases overlap : cg.areBlocksOverlapping backend.sortSlice none [] with _ | err <;>
    cases vertical : cg.enableVerticalCompaction
  case some.false => simpa [Group.compact, overlap, vertical] using CompactRun.overlapping vertical overlap
  all_goals
    have checked : cg.enableVerticalCompaction = true ∨
        cg.areBlocksOverlapping backend.sortSlice none [] = none := by simp [overlap, vertical]
    rcases planned : backend.planner.plan trace cg.metasByMinTime with err | _ | ⟨meta, rest⟩
    · simpa [Group.compact, overlap, vertical, planned] using CompactRun.unplanned checked planned
    · simpa [Group.compact, overlap, vertical, planned] using CompactRun.idle checked planned
    · simpa [Group.compact, overlap, vertical, planned] using
        CompactRun.planned checked planned (List.cons_ne_nil _ _) (compactPlan_run backend cg _ _)

/-- A call that only the run of a plan makes was made by the run of the plan
the planner returned. -/
theorem compact_of_planned_call {trace added : Trace} {ev : Event}
    (ran : (Group.compact backend cg trace).1 = trace ++ added) (mem : ev ∈ added)
    (unplanned : ∀ metas result, ev ≠ .plan metas result) :
    ∃ toCompact added',
      PlanRun backend cg toCompact (trace ++ [.plan cg.metasByMinTime (.ok toCompact)])
        (Group.compact backend cg trace) ∧
      (Group.compact backend cg trace).1 =
        trace ++ [.plan cg.metasByMinTime (.ok toCompact)] ++ added' ∧ ev ∈ added' := by
  have run := compact_run backend cg trace
  generalize Group.compact backend cg trace = outcome at run ran ⊢
  rcases run with _ | _ | _ | @⟨toCompact, _, _, _, _, planRun⟩
  · simp only [List.self_eq_append_right] at ran
    simp [ran] at mem
  · simp only [List.append_cancel_left_eq] at ran
    simp only [← ran, List.mem_singleton] at mem
    exact (unplanned _ _ mem).elim
  · simp only [List.append_cancel_left_eq] at ran
    simp only [← ran, List.mem_singleton] at mem
    exact (unplanned _ _ mem).elim
  · obtain ⟨added', extends_, -⟩ := planRun.adds
    refine ⟨toCompact, added', planRun, extends_, ?_⟩
    rw [extends_, List.append_assoc, List.append_cancel_left_eq] at ran
    simp only [← ran, List.singleton_append, List.mem_cons] at mem
    exact mem.resolve_left (unplanned _ _)

end Phases

end Thanos.Compact.CompactionPhases
