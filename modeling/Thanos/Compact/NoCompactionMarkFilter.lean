import Mathlib.Logic.Relation
import Thanos.Compact.Errors
import Thanos.Compact.Metadata

/-!
# Gathering the no-compaction marks

`GatherNoCompactionMarkFilter.Filter` passes every meta through and collects
the no-compact marks of the blocks.  One goroutine sends the block IDs on a
channel buffered to `f.concurrency`, and `f.concurrency` workers read the
marker of each block they receive: a mark is recorded in the map of the call,
a missing or unreadable marker is skipped, and any other error becomes the
worker's last error while it goes on draining the channel.  `eg.Wait()`
returns the first error a goroutine returned, and only a call without error
replaces the filter's map.

The goroutines of one call are a step relation, so that a run is one
interleaving of them.  A worker's iteration, the read of a marker and the
record of its outcome, is one step: what it shares with the others is the
channel and the mutex-protected map.  `metadata.ReadMarker` is an oracle of
the reads made so far.  The sender's `select` may take `ctx.Done()` at any of
its iterations, which covers every moment the context can be cancelled.  The
metrics and the logs are left out.

Over every interleaving: the call keeps `metas`, reads each block at most
once and, when it returns nil, exactly once, with the map of the marks read
(`filter_gathers_each_mark_once`); every interleaving returns
(`filter_ends`); and `Filter` returns nil exactly when every ID was sent and no
read failed (`filter_returns_nil_iff`).
-/

namespace Thanos.Compact.NoCompactionMarkFilter

open Thanos.Compact.Primitives
open Thanos.Compact.Errors
open Thanos.Compact.Metadata

/-- `metadata.NoCompactMark`. -/
structure NoCompactMark where
  id : Ulid
  version : Nat
  details : String
  noCompactTime : Int
  reason : String
deriving DecidableEq

/-- What `metadata.ReadMarker` did for one block. -/
inductive MarkerRead where
  | mark (m : NoCompactMark)
  /-- An error whose cause is `metadata.ErrorMarkerNotFound`. -/
  | notFound
  /-- An error whose cause is `metadata.ErrorUnmarshalMarker`. -/
  | unmarshalFailed
  /-- Any other error. -/
  | failed (err : Error)
deriving DecidableEq

/-- A Go `map[ulid.ULID]*metadata.Meta`: its entries in the order `range`
visits them, each key once. -/
structure MetaMap where
  entries : List (Ulid × Meta)
  nodup : (entries.map Prod.fst).Nodup

/-- The keys of a map, in the order `range` visits them. -/
def MetaMap.keys (metas : MetaMap) : List Ulid := metas.entries.map Prod.fst

/-- `GatherNoCompactionMarkFilter`, with the fields `Filter` uses. -/
structure GatherNoCompactionMarkFilter where
  noCompactMarkedMap : List (Ulid × NoCompactMark)
  concurrency : Nat

/-- `NoCompactMarkedBlocks`: a copy of the filter's map. -/
def GatherNoCompactionMarkFilter.noCompactMarkedBlocks (f : GatherNoCompactionMarkFilter) :
    List (Ulid × NoCompactMark) :=
  f.noCompactMarkedMap

/-- What one call runs against: `metadata.ReadMarker`, as a function of the
reads made so far, and the error `ctx.Err()` returns once cancelled. -/
structure MarkerReader where
  readMarker : List (Ulid × MarkerRead) → Ulid → MarkerRead
  ctxErr : Error

/-- Where a worker goroutine is. -/
inductive FilterWorker where
  /-- In `for id := range ch`, with its `lastErr`. -/
  | running (lastErr : Option Error)
  /-- Returned its `lastErr`. -/
  | exited
deriving DecidableEq

/-- The state of one call of `Filter` until `eg.Wait()` returns. -/
structure FilterRun where
  /-- The `metas` argument. -/
  metas : MetaMap
  /-- The IDs of `blockIDs` not sent yet. -/
  pending : List Ulid
  /-- The sender returned and closed `ch`. -/
  senderReturned : Bool
  /-- The buffer of `ch`, oldest first. -/
  ch : List Ulid
  workers : List FilterWorker
  /-- History: what the goroutines returned, in order. -/
  returned : List (Option Error)
  /-- History: every marker read with its outcome, in order. -/
  reads : List (Ulid × MarkerRead)
  /-- The `noCompactMarkedMap` of the call. -/
  marked : List (Ulid × NoCompactMark)

/-- The call right after the goroutines were started. -/
def FilterRun.start (f : GatherNoCompactionMarkFilter) (metas : MetaMap) : FilterRun where
  metas := metas
  pending := metas.keys
  senderReturned := false
  ch := []
  workers := List.replicate f.concurrency (.running none)
  returned := []
  reads := []
  marked := []

/-- The worker's `lastErr` after a read. -/
def lastError (lastErr : Option Error) : MarkerRead → Option Error
  | .failed err => some err
  | _ => lastErr

/-- The marks among some reads, as the map records them. -/
def marksRead (reads : List (Ulid × MarkerRead)) : List (Ulid × NoCompactMark) :=
  reads.filterMap fun
    | (id, .mark m) => some (id, m)
    | _ => none

@[simp]
theorem marksRead_append (reads more : List (Ulid × MarkerRead)) :
    marksRead (reads ++ more) = marksRead reads ++ marksRead more := by
  simp [marksRead]

/-- One step of one goroutine of a call. -/
inductive FilterStep (f : GatherNoCompactionMarkFilter) (reader : MarkerReader) :
    FilterRun → FilterRun → Prop
  /-- `case ch <- id`, with room in the buffer. -/
  | send {s : FilterRun} {id : Ulid} {rest : List Ulid} (pending : s.pending = id :: rest)
      (sending : s.senderReturned = false) (room : s.ch.length < f.concurrency) :
      FilterStep f reader s { s with pending := rest, ch := s.ch ++ [id] }
  /-- `case <-ctx.Done()`: the sender returns `ctx.Err()` and closes `ch`. -/
  | cancel {s : FilterRun} {id : Ulid} {rest : List Ulid} (pending : s.pending = id :: rest)
      (sending : s.senderReturned = false) :
      FilterStep f reader s
        { s with senderReturned := true, returned := s.returned ++ [some reader.ctxErr] }
  /-- Every ID was sent: the sender returns nil and closes `ch`. -/
  | finishSending {s : FilterRun} (pending : s.pending = []) (sending : s.senderReturned = false) :
      FilterStep f reader s { s with senderReturned := true, returned := s.returned ++ [none] }
  /-- A worker receives `id` and reads its marker. -/
  | read {s : FilterRun} {id : Ulid} {rest : List Ulid} {lastErr : Option Error}
      {others : List FilterWorker} (received : s.ch = id :: rest)
      (worker : s.workers.Perm (.running lastErr :: others)) :
      FilterStep f reader s
        { s with
          ch := rest
          workers := .running (lastError lastErr (reader.readMarker s.reads id)) :: others
          reads := s.reads ++ [(id, reader.readMarker s.reads id)]
          marked := s.marked ++ marksRead [(id, reader.readMarker s.reads id)] }
  /-- `ch` is closed and empty: a worker's `range` ends and it returns `lastErr`. -/
  | exit {s : FilterRun} {lastErr : Option Error} {others : List FilterWorker}
      (closed : s.senderReturned = true) (drained : s.ch = [])
      (worker : s.workers.Perm (.running lastErr :: others)) :
      FilterStep f reader s
        { s with workers := .exited :: others, returned := s.returned ++ [lastErr] }

/-- A state a call reaches. -/
def FilterReaches (f : GatherNoCompactionMarkFilter) (reader : MarkerReader) (metas : MetaMap)
    (s : FilterRun) : Prop :=
  Relation.ReflTransGen (FilterStep f reader) (FilterRun.start f metas) s

/-- Every goroutine returned: `eg.Wait()` returns. -/
def FilterRun.Ended (s : FilterRun) : Prop :=
  s.senderReturned = true ∧ ∀ w ∈ s.workers, w = .exited

/-- `eg.Wait()` and the rest of `Filter`: the filter after the call, and the
error it returns. -/
def FilterRun.result (s : FilterRun) (f : GatherNoCompactionMarkFilter) :
    GatherNoCompactionMarkFilter × Option Error :=
  match (s.returned.filterMap fun returned => returned).head? with
  | some err => (f, some (.wrap "filter blocks marked for no compaction" err))
  | none => ({ f with noCompactMarkedMap := s.marked }, none)

/-- `eg.Wait()` returns nil exactly when no goroutine returned an error; only
then does the call replace the filter's map. -/
theorem FilterRun.result_cases (s : FilterRun) (f : GatherNoCompactionMarkFilter) :
    ((s.result f).2 = none ∧ (s.result f).1 = { f with noCompactMarkedMap := s.marked } ∧
        ∀ err, some err ∉ s.returned) ∨
      ((s.result f).2.isSome ∧ (s.result f).1 = f ∧ ∃ err, some err ∈ s.returned) := by
  unfold FilterRun.result
  split
  · rename_i err first
    obtain ⟨_, mem, rfl⟩ := List.mem_filterMap.mp (List.mem_of_mem_head? first)
    exact .inr ⟨rfl, rfl, ⟨_, mem⟩⟩
  · rename_i none_found
    simp only [List.head?_eq_none_iff, List.filterMap_eq_nil_iff] at none_found
    exact .inl ⟨rfl, rfl, fun err mem => absurd (none_found _ mem) (by simp)⟩

/-! ## The invariant of a call -/

/-- What holds at every state of a call. -/
structure FilterRun.Invariant (f : GatherNoCompactionMarkFilter) (reader : MarkerReader)
    (metas : MetaMap) (s : FilterRun) : Prop where
  metas_eq : s.metas = metas
  length_workers : s.workers.length = f.concurrency
  /-- `ch` is first in, first out: the reads, the buffer and the IDs not sent
  are `blockIDs` in order. -/
  order : s.reads.map Prod.fst ++ s.ch ++ s.pending = metas.keys
  marked_eq : s.marked = marksRead s.reads
  /-- The sender returned nil only after sending every ID. -/
  sent : s.senderReturned = true → s.pending = [] ∨ some reader.ctxErr ∈ s.returned
  /-- A worker exits only once `ch` is closed and empty, and it stays so. -/
  drained : FilterWorker.exited ∈ s.workers → s.senderReturned = true ∧ s.ch = []
  /-- A failed read stays some worker's last error until that worker returns it. -/
  failures : (∃ id err, (id, .failed err) ∈ s.reads) →
    (∃ err, FilterWorker.running (some err) ∈ s.workers) ∨ ∃ err, some err ∈ s.returned

theorem FilterRun.Invariant.start (f : GatherNoCompactionMarkFilter) (reader : MarkerReader)
    (metas : MetaMap) : (FilterRun.start f metas).Invariant f reader metas where
  metas_eq := rfl
  length_workers := List.length_replicate _ _
  order := by simp [FilterRun.start]
  marked_eq := rfl
  sent := nofun
  drained := by simp [FilterRun.start]
  failures := by simp [FilterRun.start]

@[simp]
theorem lastError_failed (lastErr : Option Error) (err : Error) :
    lastError lastErr (.failed err) = some err := rfl

/-- A worker's last error, once set, stays set. -/
theorem lastError_some (err : Error) (read : MarkerRead) : ∃ err', lastError (some err) read = some err' := by
  cases read <;> exact ⟨_, rfl⟩

section Steps

variable {f : GatherNoCompactionMarkFilter} {reader : MarkerReader} {metas : MetaMap}

/-- Every step of a call keeps the invariant. -/
theorem FilterRun.Invariant.step {s s' : FilterRun} (holds : s.Invariant f reader metas)
    (step : FilterStep f reader s s') : s'.Invariant f reader metas := by
  obtain ⟨metas_eq, length_workers, order, marked_eq, sent, drained, failures⟩ := holds
  cases step with
  | send pending sending =>
    refine ⟨metas_eq, length_workers, by simpa [pending] using order, marked_eq,
      fun returned => absurd returned (by simp [sending]), fun exited => ?_, failures⟩
    exact absurd (drained exited).1 (by simp [sending])
  | cancel pending sending =>
    exact ⟨metas_eq, length_workers, order, marked_eq, fun _ => .inr (by simp),
      fun exited => absurd (drained exited).1 (by simp [sending]), fun failed =>
        (failures failed).imp_right fun ⟨err, mem⟩ => ⟨err, List.mem_append_left _ mem⟩⟩
  | finishSending pending sending =>
    exact ⟨metas_eq, length_workers, order, marked_eq, fun _ => .inl pending,
      fun exited => absurd (drained exited).1 (by simp [sending]), fun failed =>
        (failures failed).imp_right fun ⟨err, mem⟩ => ⟨err, List.mem_append_left _ mem⟩⟩
  | @read id rest lastErr others received worker =>
    have members : ∀ w, w ∈ s.workers ↔ w ∈ FilterWorker.running lastErr :: others :=
      fun _ => worker.mem_iff
    refine ⟨metas_eq, by simp [← length_workers, worker.length_eq], by simpa [received] using order,
      by simp [marked_eq], sent, fun exited => ?_, fun failed => ?_⟩
    · have fromOthers : FilterWorker.exited ∈ others := by simpa using exited
      have := (drained ((members _).mpr (.tail _ fromOthers))).2
      simp [received] at this
    · obtain ⟨failedId, err, mem⟩ := failed
      rcases List.mem_append.mp mem with old | new
      · rcases failures ⟨_, _, old⟩ with ⟨err', running⟩ | returned
        · rcases List.mem_cons.mp ((members _).mp running) with same | other
          · cases same
            obtain ⟨err'', kept⟩ := lastError_some err' (reader.readMarker s.reads id)
            exact .inl ⟨err'', by simp [kept]⟩
          · exact .inl ⟨err', .tail _ other⟩
        · exact .inr returned
      · obtain ⟨-, read⟩ := Prod.mk.inj (List.mem_singleton.mp new)
        exact .inl ⟨err, by simp [← read]⟩
  | @exit lastErr others closed drained' worker =>
    have members : ∀ w, w ∈ s.workers ↔ w ∈ FilterWorker.running lastErr :: others :=
      fun _ => worker.mem_iff
    refine ⟨metas_eq, by simp [← length_workers, worker.length_eq], order, marked_eq,
      fun _ => (sent closed).imp_right (List.mem_append_left _), fun _ => ⟨closed, drained'⟩,
      fun failed => ?_⟩
    rcases failures failed with ⟨err, running⟩ | ⟨err, returned⟩
    · rcases List.mem_cons.mp ((members _).mp running) with same | other
      · cases same
        exact .inr ⟨err, by simp⟩
      · exact .inl ⟨err, .tail _ other⟩
    · exact .inr ⟨err, List.mem_append_left _ returned⟩

/-- Every state a call reaches satisfies the invariant. -/
theorem FilterReaches.invariant {s : FilterRun} (run : FilterReaches f reader metas s) :
    s.Invariant f reader metas := by
  induction run with
  | refl => exact .start f reader metas
  | tail _ step holds => exact holds.step step

end Steps

/-- For every metas map, every outcome of every marker read, `f.concurrency ≥ 1`
and every interleaving of the sender with the workers: the call never changes
`metas` and reads each block's marker at most once, and only blocks of
`metas`.  When every goroutine returned: if `Filter` returns nil, every block
of `metas` was read exactly once, in the order `range` visited them, and
`NoCompactMarkedBlocks()` maps exactly the blocks whose read returned a mark,
each to that mark; if a read returned another error, `Filter` returns an error
and `NoCompactMarkedBlocks()` is what it was before the call. -/
theorem filter_gathers_each_mark_once (f : GatherNoCompactionMarkFilter) (reader : MarkerReader)
    (metas : MetaMap) (positive : 0 < f.concurrency) {s : FilterRun}
    (run : FilterReaches f reader metas s) :
    s.metas = metas ∧ (s.reads.map Prod.fst).Nodup ∧ (∀ id ∈ s.reads.map Prod.fst, id ∈ metas.keys) ∧
    (s.Ended →
      ((s.result f).2 = none → s.reads.map Prod.fst = metas.keys ∧
        (s.result f).1.noCompactMarkedBlocks = marksRead s.reads) ∧
      ((∃ id err, (id, MarkerRead.failed err) ∈ s.reads) →
        (s.result f).2.isSome ∧ (s.result f).1.noCompactMarkedBlocks = f.noCompactMarkedBlocks)) := by
  obtain ⟨metas_eq, length_workers, order, marked_eq, sent, drained, failures⟩ := run.invariant
  have readFirst : (s.reads.map Prod.fst).Sublist metas.keys := by
    rw [← order, List.append_assoc]
    exact List.sublist_append_left _ _
  refine ⟨metas_eq, metas.nodup.sublist readFirst, fun _ mem => readFirst.subset mem,
    fun ⟨closed, exited⟩ => ?_⟩
  have emptied : s.ch = [] := by
    obtain ⟨w, mem⟩ := List.exists_mem_of_length_pos (length_workers ▸ positive)
    exact (drained (exited w mem ▸ mem)).2
  rcases s.result_cases f with ⟨succeeded, replaced, clean⟩ | ⟨failedCall, kept, -⟩
  · have sentAll : s.pending = [] := (sent closed).resolve_right (clean _)
    refine ⟨fun _ => ⟨by simpa [emptied, sentAll] using order, by
      rw [replaced, GatherNoCompactionMarkFilter.noCompactMarkedBlocks, marked_eq]⟩, fun failed => ?_⟩
    obtain ⟨err, mem⟩ := (failures failed).resolve_left fun ⟨err, running⟩ => by
      cases exited _ running
    exact absurd mem (clean err)
  · exact ⟨fun succeeded => by simp [succeeded] at failedCall, fun _ => ⟨failedCall, by rw [kept]⟩⟩

/-- A filter of one worker and no marks yet. -/
def singleReader : GatherNoCompactionMarkFilter := ⟨[], 1⟩

/-- A map of the one raw block 1. -/
def oneBlockMetas : MetaMap :=
  ⟨[(1, ⟨⟨1, Int64.ofInt 0, Int64.ofInt 10, 1, 1, [1]⟩, ⟨[], Int64.ofInt 0⟩⟩)], by decide⟩

/-- Block 1 has a no-compact mark. -/
def markedBlockReader : MarkerReader :=
  ⟨fun _ id => .mark ⟨id, 1, "manual", 0, "manual"⟩, .new "context canceled"⟩

/-- The call over `oneBlockMetas` after the worker exited. -/
def oneBlockEnd : FilterRun :=
  ⟨oneBlockMetas, [], true, [], [.exited], [none, none],
    [(1, .mark ⟨1, 1, "manual", 0, "manual"⟩)], [(1, ⟨1, 1, "manual", 0, "manual"⟩)]⟩

/-- The run that sends block 1, closes the channel, reads the mark and exits:
the filter of one worker gathers the mark of block 1. -/
theorem filter_gathers_each_mark_once_of_one_block :
    0 < singleReader.concurrency ∧
      FilterReaches singleReader markedBlockReader oneBlockMetas oneBlockEnd ∧
      oneBlockEnd.Ended ∧
      (oneBlockEnd.result singleReader).1.noCompactMarkedBlocks =
        [(1, ⟨1, 1, "manual", 0, "manual"⟩)] :=
  have run : FilterReaches singleReader markedBlockReader oneBlockMetas oneBlockEnd :=
    .tail (.tail (.tail (.single (.send rfl rfl (by decide))) (.finishSending rfl rfl))
      (.read rfl (.refl _))) (.exit rfl rfl (.refl _))
  have ended : oneBlockEnd.Ended := ⟨rfl, by simp [oneBlockEnd]⟩
  ⟨by decide, run, ended,
    ((filter_gathers_each_mark_once singleReader markedBlockReader oneBlockMetas (by decide) run).2.2.2
      ended).1 rfl |>.2⟩

/-! ## Every interleaving returns

A call ends under every schedule: each step does one unit of the work left,
and until every goroutine returned some goroutine other than a cancelled
sender can move.  With `f.concurrency = 0` and a block to send, only
cancelling the context moves the sender, as in Go, where `ch <- id` on an
unbuffered channel without receivers blocks until `ctx.Done()`. -/

/-- A worker still in its `range` loop. -/
def FilterWorker.isRunning : FilterWorker → Bool
  | .running _ => true
  | .exited => false

/-- The work a call has left: every ID not sent is still to be sent and read,
every buffered ID to be read, the sender to return if it has not, and every
running worker to return. -/
def FilterRun.remaining (s : FilterRun) : Nat :=
  2 * s.pending.length + s.ch.length + (if s.senderReturned then 0 else 1) +
    s.workers.countP FilterWorker.isRunning

/-- Some goroutine can move while the context stays live: the sender can send
the next ID or return nil, a worker can receive from `ch`, or, `ch` closed and
drained, a worker can return. -/
def FilterRun.Enabled (f : GatherNoCompactionMarkFilter) (s : FilterRun) : Prop :=
  (s.senderReturned = false ∧ (s.pending = [] ∨ s.ch.length < f.concurrency)) ∨
    (s.ch ≠ [] ∧ ∃ lastErr, FilterWorker.running lastErr ∈ s.workers) ∨
    (s.senderReturned = true ∧ s.ch = [] ∧ ∃ lastErr, FilterWorker.running lastErr ∈ s.workers)

section Ending

variable {f : GatherNoCompactionMarkFilter} {reader : MarkerReader} {metas : MetaMap}

/-- Every step does exactly one unit of the work left. -/
theorem FilterStep.remaining_eq {s s' : FilterRun} (step : FilterStep f reader s s') :
    s'.remaining + 1 = s.remaining := by
  cases step with
  | send pending sending =>
    simp only [FilterRun.remaining, pending, sending, List.length_cons, List.length_append,
      List.length_nil, Bool.false_eq_true, if_false]
    omega
  | cancel _ sending | finishSending _ sending =>
    simp only [FilterRun.remaining, sending, Bool.false_eq_true, if_true, if_false]
    omega
  | read received worker =>
    simp only [FilterRun.remaining, received, worker.countP_eq, FilterWorker.isRunning,
      List.countP_cons_of_pos, List.length_cons]
    omega
  | exit _ _ worker =>
    simp only [FilterRun.remaining, worker.countP_eq, FilterWorker.isRunning,
      List.countP_cons_of_pos, List.countP_cons_of_neg, Bool.false_eq_true, not_false_eq_true]
    omega

/-- No run of a call goes on forever. -/
theorem filterStep_wellFounded :
    WellFounded fun later earlier => FilterStep f reader earlier later :=
  Subrelation.wf (fun step => Nat.lt_of_succ_le (Nat.le_of_eq step.remaining_eq))
    (measure FilterRun.remaining).wf

/-- An enabled move is a step of the call. -/
theorem FilterRun.Enabled.step {s : FilterRun} (enabled : s.Enabled f) :
    ∃ s', FilterStep f reader s s' := by
  rcases enabled with ⟨sending, moving⟩ | ⟨nonempty, _, mem⟩ | ⟨closed, drained, _, mem⟩
  · cases pending : s.pending with
    | nil => exact ⟨_, .finishSending pending sending⟩
    | cons id rest =>
      exact ⟨_, .send pending sending (moving.resolve_left (by simp [pending]))⟩
  · obtain ⟨id, rest, received⟩ := List.exists_cons_of_ne_nil nonempty
    exact ⟨_, .read received (List.perm_cons_erase mem)⟩
  · exact ⟨_, .exit closed drained (List.perm_cons_erase mem)⟩

/-- A call that has not ended can move without its context being cancelled:
while the sender runs no worker has returned, so a full buffer has a worker
to receive from it; once the sender returned, a worker still runs. -/
theorem FilterRun.Invariant.progress {s : FilterRun} (holds : s.Invariant f reader metas)
    (positive : 0 < f.concurrency) (running : ¬ s.Ended) : s.Enabled f := by
  cases sending : s.senderReturned
  · by_cases room : s.ch.length < f.concurrency
    · exact .inl ⟨sending, .inr room⟩
    have full : s.ch ≠ [] := fun empty => room (by simpa [empty] using positive)
    obtain ⟨w, mem⟩ := List.exists_mem_of_length_pos (holds.length_workers ▸ positive)
    cases w with
    | exited => exact absurd (holds.drained mem).1 (by simp [sending])
    | running lastErr => exact .inr (.inl ⟨full, lastErr, mem⟩)
  · obtain ⟨w, mem, notExited⟩ : ∃ w ∈ s.workers, w ≠ .exited := by
      simpa [FilterRun.Ended, sending] using running
    cases w with
    | exited => exact absurd rfl notExited
    | running lastErr =>
      by_cases drained : s.ch = []
      · exact .inr (.inr ⟨sending, drained, lastErr, mem⟩)
      · exact .inr (.inl ⟨drained, lastErr, mem⟩)

end Ending

/-- Every interleaving of a call returns: with `f.concurrency ≥ 1`, a schedule
that moves some goroutine whenever one can move reaches a state where every
goroutine returned, so `eg.Wait()` returns. -/
theorem filter_ends (f : GatherNoCompactionMarkFilter) (reader : MarkerReader) (metas : MetaMap)
    (positive : 0 < f.concurrency) (run : ℕ → FilterRun) (start : run 0 = FilterRun.start f metas)
    (steps : ∀ k, (∃ s', FilterStep f reader (run k) s') →
      FilterStep f reader (run k) (run (k + 1))) :
    ∃ k, FilterReaches f reader metas (run k) ∧ (run k).Ended := by
  obtain ⟨k, stuck, reached⟩ := maximal_run_stops filterStep_wellFounded run steps
  rw [start] at reached
  exact ⟨k, reached, Classical.byContradiction fun running =>
    stuck ((FilterReaches.invariant reached).progress positive running).step⟩

/-- The call over `oneBlockMetas` sends block 1, closes the channel, reads the
mark and exits, and then nothing moves. -/
def oneBlockRun : ℕ → FilterRun
  | 0 => FilterRun.start singleReader oneBlockMetas
  | 1 => ⟨oneBlockMetas, [], false, [1], [.running none], [], [], []⟩
  | 2 => ⟨oneBlockMetas, [], true, [1], [.running none], [none], [], []⟩
  | 3 => ⟨oneBlockMetas, [], true, [], [.running none], [none],
      [(1, .mark ⟨1, 1, "manual", 0, "manual"⟩)], [(1, ⟨1, 1, "manual", 0, "manual"⟩)]⟩
  | _ + 4 => oneBlockEnd

theorem oneBlockEnd_stuck (s' : FilterRun) : ¬ FilterStep singleReader markedBlockReader oneBlockEnd s' := by
  intro step
  cases step with
  | send pending | cancel pending => cases pending
  | finishSending _ sending => cases sending
  | read received => cases received
  | exit _ _ worker => simp [oneBlockEnd] at worker

theorem filter_ends_of_one_block :
    0 < singleReader.concurrency ∧ oneBlockRun 0 = FilterRun.start singleReader oneBlockMetas ∧
    (∀ k, (∃ s', FilterStep singleReader markedBlockReader (oneBlockRun k) s') →
      FilterStep singleReader markedBlockReader (oneBlockRun k) (oneBlockRun (k + 1))) ∧
    ∃ k, FilterReaches singleReader markedBlockReader oneBlockMetas (oneBlockRun k) ∧ (oneBlockRun k).Ended :=
  have steps : ∀ k, (∃ s', FilterStep singleReader markedBlockReader (oneBlockRun k) s') →
      FilterStep singleReader markedBlockReader (oneBlockRun k) (oneBlockRun (k + 1))
    | 0, _ => .send rfl rfl (by decide)
    | 1, _ => .finishSending rfl rfl
    | 2, _ => @FilterStep.read _ _ _ 1 [] none [] rfl (.refl _)
    | 3, _ => @FilterStep.exit _ _ _ none [] rfl rfl (.refl _)
    | _ + 4, ⟨s', step⟩ => (oneBlockEnd_stuck s' step).elim
  ⟨by decide, rfl, steps, filter_ends _ _ _ (by decide) oneBlockRun rfl steps⟩

/-! ## When `Filter` returns an error -/

/-- A worker's last error after a read is the read's error or the one it had. -/
theorem lastError_eq_some {lastErr : Option Error} {read : MarkerRead} {err : Error}
    (set : lastError lastErr read = some err) : read = .failed err ∨ lastErr = some err := by
  cases read <;> simp_all [lastError]

/-- Where the errors of a call come from. -/
structure FilterRun.ErrorsExplained (reader : MarkerReader) (s : FilterRun) : Prop where
  /-- No goroutine returns while the sender runs. -/
  quiet : s.senderReturned = false → s.returned = []
  /-- A worker's last error is the error of a read. -/
  lastErrors : ∀ err, FilterWorker.running (some err) ∈ s.workers →
    ∃ id, (id, MarkerRead.failed err) ∈ s.reads
  /-- A returned error is `ctx.Err()` from a sender cancelled with IDs left to
  send, or the error of a read. -/
  returnedErrors : ∀ err, some err ∈ s.returned →
    (err = reader.ctxErr ∧ s.pending ≠ []) ∨ ∃ id, (id, MarkerRead.failed err) ∈ s.reads

section Errors

variable {f : GatherNoCompactionMarkFilter} {reader : MarkerReader} {metas : MetaMap}

/-- Every step of a call keeps the errors explained. -/
theorem FilterRun.ErrorsExplained.step {s s' : FilterRun} (explained : s.ErrorsExplained reader)
    (step : FilterStep f reader s s') : s'.ErrorsExplained reader := by
  obtain ⟨quiet, lastErrors, returnedErrors⟩ := explained
  cases step with
  | send _ sending => exact ⟨fun _ => quiet sending, lastErrors, fun _ mem => by simp [quiet sending] at mem⟩
  | cancel pending sending =>
    refine ⟨nofun, lastErrors, fun err mem => .inl ⟨?_, by simp [pending]⟩⟩
    simpa [quiet sending] using mem
  | finishSending _ sending => exact ⟨nofun, lastErrors, fun _ mem => by simp [quiet sending] at mem⟩
  | @read id rest lastErr others received worker =>
    refine ⟨quiet, fun err running => ?_, fun err mem =>
      (returnedErrors err mem).imp_right fun ⟨id', old⟩ => ⟨id', List.mem_append_left _ old⟩⟩
    rcases List.mem_cons.mp running with same | other
    · rcases lastError_eq_some (FilterWorker.running.inj same).symm with failed | kept
      · exact ⟨id, by simp [← failed]⟩
      · obtain ⟨id', old⟩ := lastErrors err (worker.mem_iff.mpr (kept ▸ .head _))
        exact ⟨id', List.mem_append_left _ old⟩
    · obtain ⟨id', old⟩ := lastErrors err (worker.mem_iff.mpr (.tail _ other))
      exact ⟨id', List.mem_append_left _ old⟩
  | @exit lastErr others closed _ worker =>
    refine ⟨fun reopened => by simp [closed] at reopened, fun err running =>
      lastErrors err (worker.mem_iff.mpr (.tail _ (by simpa using running))), fun err mem => ?_⟩
    rcases List.mem_append.mp mem with old | new
    · exact returnedErrors err old
    · exact .inr (lastErrors err (worker.mem_iff.mpr (by simp at new; simp [new])))

/-- Every state a call reaches has its errors explained. -/
theorem FilterReaches.errorsExplained {s : FilterRun} (run : FilterReaches f reader metas s) :
    s.ErrorsExplained reader := by
  induction run with
  | refl => exact ⟨fun _ => rfl, by simp [FilterRun.start, List.mem_replicate], by simp [FilterRun.start]⟩
  | tail _ step explained => exact explained.step step

/-- At the end of every interleaving, `Filter` returns nil exactly when the
sender sent every ID, so the context was not cancelled before, and no marker
read failed with an error other than a missing or unreadable marker. -/
theorem filter_returns_nil_iff {s : FilterRun} (run : FilterReaches f reader metas s)
    (ended : s.Ended) :
    (s.result f).2 = none ↔ s.pending = [] ∧ ∀ id err, (id, MarkerRead.failed err) ∉ s.reads := by
  obtain ⟨-, -, -, -, sent, -, failures⟩ := FilterReaches.invariant run
  rcases s.result_cases f with ⟨succeeded, -, clean⟩ | ⟨failedCall, -, err, mem⟩
  · refine iff_of_true succeeded ⟨(sent ended.1).resolve_right (clean _), fun id err failed => ?_⟩
    obtain ⟨err', running⟩ | ⟨err', returned⟩ := failures ⟨id, err, failed⟩
    · cases ended.2 _ running
    · exact clean err' returned
  · refine iff_of_false (fun succeeded => by simp [succeeded] at failedCall) fun ⟨sentAll, clean⟩ => ?_
    rcases (FilterReaches.errorsExplained run).returnedErrors err mem with ⟨-, unsent⟩ | ⟨id, failed⟩
    · exact unsent sentAll
    · exact clean id err failed

end Errors

/-- The call over `oneBlockMetas` returns nil: block 1 was sent and its mark read. -/
theorem filter_returns_nil_iff_of_one_block :
    FilterReaches singleReader markedBlockReader oneBlockMetas oneBlockEnd ∧ oneBlockEnd.Ended ∧
    ((oneBlockEnd.result singleReader).2 = none ↔
      oneBlockEnd.pending = [] ∧ ∀ id err, (id, MarkerRead.failed err) ∉ oneBlockEnd.reads) :=
  have run : FilterReaches singleReader markedBlockReader oneBlockMetas oneBlockEnd :=
    .tail (.tail (.tail (.single (.send rfl rfl (by decide))) (.finishSending rfl rfl))
      (.read rfl (.refl _))) (.exit rfl rfl (.refl _))
  have ended : oneBlockEnd.Ended := ⟨rfl, by simp [oneBlockEnd]⟩
  ⟨run, ended, filter_returns_nil_iff run ended⟩

end Thanos.Compact.NoCompactionMarkFilter
