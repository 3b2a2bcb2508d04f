import Thanos.Compact.Primitives

/-!
# Error values and their classification

The compactor sorts failures into three classes by the Go type of an error's
cause: a `HaltError` stops the compactor, a `RetryError` makes the caller run
the whole loop again, and `Issue347Error` and `OutOfOrderChunksError` name a
block that the orchestrator can repair or mark for no compaction.

`Error` is the syntax of the error values the package builds.  `new` is an
error with no cause (`errors.New`, `errors.Errorf`, `fmt.Errorf`, or an error a
collaborator returns); `wrap` is one `errors.Wrap`/`errors.Wrapf` layer, which
`errors.Cause` removes; the other constructors are the package's wrapper types
and `errutil.NonNilMultiRootError`.  The predicates `isHaltError`,
`isRetryError`, `isIssue347Error` and `isOutOfOrderChunkError` follow the Go
functions of the same names: each looks at `errors.Cause` of its argument, and
the first two look through a multi-error.
-/

namespace Thanos.Compact.Errors

open Thanos.Compact.Primitives

/-- An error value of the package, by how it was built. -/
inductive Error where
  /-- An error with no cause. -/
  | new (message : String)
  /-- `errors.Wrap(cause, message)`. -/
  | wrap (message : String) (cause : Error)
  /-- `HaltError{err}`. -/
  | haltError (err : Error)
  /-- `RetryError{err}`. -/
  | retryError (err : Error)
  /-- `Issue347Error{err, id}`. -/
  | issue347Error (err : Error) (id : Ulid)
  /-- `OutOfOrderChunksError{err, id}`. -/
  | outOfOrderChunksError (err : Error) (id : Ulid)
  /-- `errutil.NonNilMultiRootError(errs)`. -/
  | nonNilMultiRootError (errs : List Error)

mutual
/-- Equality of error values is decidable. -/
def Error.decEq : (left right : Error) → Decidable (left = right)
  | .new left, .new right =>
      if equal : left = right then isTrue (equal ▸ rfl)
      else isFalse (by intro same; cases same; exact equal rfl)
  | .wrap left leftCause, .wrap right rightCause =>
      if equal : left = right then
        match Error.decEq leftCause rightCause with
        | isTrue causes => isTrue (equal ▸ causes ▸ rfl)
        | isFalse causes => isFalse (by intro same; cases same; exact causes rfl)
      else isFalse (by intro same; cases same; exact equal rfl)
  | .haltError left, .haltError right =>
      match Error.decEq left right with
      | isTrue equal => isTrue (equal ▸ rfl)
      | isFalse equal => isFalse (by intro same; cases same; exact equal rfl)
  | .retryError left, .retryError right =>
      match Error.decEq left right with
      | isTrue equal => isTrue (equal ▸ rfl)
      | isFalse equal => isFalse (by intro same; cases same; exact equal rfl)
  | .issue347Error left leftId, .issue347Error right rightId =>
      if ids : leftId = rightId then
        match Error.decEq left right with
        | isTrue equal => isTrue (equal ▸ ids ▸ rfl)
        | isFalse equal => isFalse (by intro same; cases same; exact equal rfl)
      else isFalse (by intro same; cases same; exact ids rfl)
  | .outOfOrderChunksError left leftId, .outOfOrderChunksError right rightId =>
      if ids : leftId = rightId then
        match Error.decEq left right with
        | isTrue equal => isTrue (equal ▸ ids ▸ rfl)
        | isFalse equal => isFalse (by intro same; cases same; exact equal rfl)
      else isFalse (by intro same; cases same; exact ids rfl)
  | .nonNilMultiRootError left, .nonNilMultiRootError right =>
      match Error.decEqList left right with
      | isTrue equal => isTrue (equal ▸ rfl)
      | isFalse equal => isFalse (by intro same; cases same; exact equal rfl)
  | .new _, .wrap _ _ | .new _, .haltError _ | .new _, .retryError _
  | .new _, .issue347Error _ _ | .new _, .outOfOrderChunksError _ _
  | .new _, .nonNilMultiRootError _
  | .wrap _ _, .new _ | .wrap _ _, .haltError _ | .wrap _ _, .retryError _
  | .wrap _ _, .issue347Error _ _ | .wrap _ _, .outOfOrderChunksError _ _
  | .wrap _ _, .nonNilMultiRootError _
  | .haltError _, .new _ | .haltError _, .wrap _ _ | .haltError _, .retryError _
  | .haltError _, .issue347Error _ _ | .haltError _, .outOfOrderChunksError _ _
  | .haltError _, .nonNilMultiRootError _
  | .retryError _, .new _ | .retryError _, .wrap _ _ | .retryError _, .haltError _
  | .retryError _, .issue347Error _ _ | .retryError _, .outOfOrderChunksError _ _
  | .retryError _, .nonNilMultiRootError _
  | .issue347Error _ _, .new _ | .issue347Error _ _, .wrap _ _
  | .issue347Error _ _, .haltError _ | .issue347Error _ _, .retryError _
  | .issue347Error _ _, .outOfOrderChunksError _ _
  | .issue347Error _ _, .nonNilMultiRootError _
  | .outOfOrderChunksError _ _, .new _ | .outOfOrderChunksError _ _, .wrap _ _
  | .outOfOrderChunksError _ _, .haltError _ | .outOfOrderChunksError _ _, .retryError _
  | .outOfOrderChunksError _ _, .issue347Error _ _
  | .outOfOrderChunksError _ _, .nonNilMultiRootError _
  | .nonNilMultiRootError _, .new _ | .nonNilMultiRootError _, .wrap _ _
  | .nonNilMultiRootError _, .haltError _ | .nonNilMultiRootError _, .retryError _
  | .nonNilMultiRootError _, .issue347Error _ _
  | .nonNilMultiRootError _, .outOfOrderChunksError _ _ =>
      isFalse (by intro same; cases same)

/-- Equality of lists of error values is decidable. -/
def Error.decEqList : (left right : List Error) → Decidable (left = right)
  | [], [] => isTrue rfl
  | [], _ :: _ | _ :: _, [] => isFalse (by intro same; cases same)
  | left :: lefts, right :: rights =>
      match Error.decEq left right, Error.decEqList lefts rights with
      | isTrue equal, isTrue equals => isTrue (equal ▸ equals ▸ rfl)
      | isFalse equal, _ => isFalse (by intro same; cases same; exact equal rfl)
      | _, isFalse equals => isFalse (by intro same; cases same; exact equals rfl)
end

instance : DecidableEq Error := Error.decEq

/-- `errors.Cause`: remove the `errors.Wrap` layers. -/
def Error.cause : Error → Error
  | .wrap _ cause => cause.cause
  | err => err

@[simp]
theorem Error.cause_wrap (message : String) (err : Error) :
    (Error.wrap message err).cause = err.cause := rfl

@[simp]
theorem Error.cause_cause : (err : Error) → err.cause.cause = err.cause
  | .wrap _ cause => Error.cause_cause cause
  | .new _ | .haltError _ | .retryError _ | .issue347Error _ _
  | .outOfOrderChunksError _ _ | .nonNilMultiRootError _ => rfl

/-- The type assertion `.(HaltError)`. -/
def Error.isHaltErrorValue : Error → Bool
  | .haltError _ => true
  | _ => false

/-- The type assertion `.(RetryError)`. -/
def Error.isRetryErrorValue : Error → Bool
  | .retryError _ => true
  | _ => false

/-- `halt(err)`. -/
def halt (err : Error) : Error := .haltError err

/-- `IsHaltError`: the cause is a `HaltError`, or a multi-error with one. -/
def isHaltError (err : Error) : Bool :=
  match err.cause with
  | .nonNilMultiRootError errs => errs.any fun member => member.cause.isHaltErrorValue
  | cause => cause.isHaltErrorValue

/-- `retry(err)`: a halt error stays what it is. -/
def retry (err : Error) : Error :=
  if isHaltError err then err else .retryError err

/-- `IsRetryError`: the cause is a `RetryError`, or a multi-error of them. -/
def isRetryError (err : Error) : Bool :=
  match err.cause with
  | .nonNilMultiRootError errs => errs.all fun member => member.cause.isRetryErrorValue
  | cause => cause.isRetryErrorValue

/-- `NewRetryError`: the exported name of `retry`. -/
def newRetryError (err : Error) : Error := retry err

/-- `issue347Error(err, brokenBlock)`. -/
def issue347Error (err : Error) (brokenBlock : Ulid) : Error := .issue347Error err brokenBlock

/-- `IsIssue347Error`: the cause is an `Issue347Error`. -/
def isIssue347Error (err : Error) : Bool :=
  match err.cause with
  | .issue347Error _ _ => true
  | _ => false

/-- `outOfOrderChunkError(err, brokenBlock)`. -/
def outOfOrderChunkError (err : Error) (brokenBlock : Ulid) : Error :=
  .outOfOrderChunksError err brokenBlock

/-- `IsOutOfOrderChunkError`: the cause is an `OutOfOrderChunksError`. -/
def isOutOfOrderChunkError (err : Error) : Bool :=
  match err.cause with
  | .outOfOrderChunksError _ _ => true
  | _ => false

@[simp]
theorem isRetryError_wrap (message : String) (err : Error) :
    isRetryError (.wrap message err) = isRetryError err := rfl

@[simp]
theorem isIssue347Error_wrap (message : String) (err : Error) :
    isIssue347Error (.wrap message err) = isIssue347Error err := rfl

@[simp]
theorem isOutOfOrderChunkError_wrap (message : String) (err : Error) :
    isOutOfOrderChunkError (.wrap message err) = isOutOfOrderChunkError err := rfl

@[simp]
theorem isHaltError_halt (err : Error) : isHaltError (halt err) = true := rfl

@[simp]
theorem isRetryError_halt (err : Error) : isRetryError (halt err) = false := rfl

@[simp]
theorem isIssue347Error_outOfOrderChunkError (err : Error) (brokenBlock : Ulid) :
    isIssue347Error (outOfOrderChunkError err brokenBlock) = false := rfl

@[simp]
theorem isOutOfOrderChunkError_outOfOrderChunkError (err : Error) (brokenBlock : Ulid) :
    isOutOfOrderChunkError (outOfOrderChunkError err brokenBlock) = true := rfl

@[simp]
theorem isRetryError_outOfOrderChunkError (err : Error) (brokenBlock : Ulid) :
    isRetryError (outOfOrderChunkError err brokenBlock) = false := rfl

/-- `retry` wraps every error that is not a halt error. -/
theorem retry_of_not_halt {err : Error} (notHalt : isHaltError err = false) :
    retry err = .retryError err := by
  simp only [retry, notHalt, Bool.false_eq_true, if_false]

/-- `retry` of an error that is not a halt error is a retry error and no halt error. -/
theorem retry_classified {err : Error} (notHalt : isHaltError err = false) :
    isRetryError (retry err) = true ∧ isHaltError (retry err) = false := by
  rw [retry_of_not_halt notHalt]
  exact ⟨rfl, rfl⟩

/-! ## The laws of the classes -/

/-- No error value is both a `HaltError` and a `RetryError`. -/
theorem Error.not_haltErrorValue_and_retryErrorValue (err : Error) :
    ¬ (err.isHaltErrorValue = true ∧ err.isRetryErrorValue = true) := by
  cases err <;> simp [Error.isHaltErrorValue, Error.isRetryErrorValue]

/-- No error is both a halt error and a retry error: a multi-error with a
halt member has a member that is no retry error. -/
theorem not_halt_and_retry (err : Error) : ¬ (isHaltError err = true ∧ isRetryError err = true) := by
  unfold isHaltError isRetryError
  generalize err.cause = cause
  cases cause with
  | nonNilMultiRootError errs =>
    simp only [List.any_eq_true, List.all_eq_true]
    rintro ⟨⟨member, mem, halted⟩, retried⟩
    exact member.cause.not_haltErrorValue_and_retryErrorValue ⟨halted, retried member mem⟩
  | _ => exact Error.not_haltErrorValue_and_retryErrorValue _

/-- `retry` keeps whether an error halts. -/
theorem isHaltError_retry (err : Error) : isHaltError (retry err) = isHaltError err := by
  cases halted : isHaltError err
  · rw [retry_of_not_halt halted]
    rfl
  · simp [retry, halted]

/-- Any number of `errors.Wrap` layers changes neither class. -/
theorem classes_wrap (messages : List String) (err : Error) :
    isHaltError (messages.foldr Error.wrap err) = isHaltError err ∧
      isRetryError (messages.foldr Error.wrap err) = isRetryError err := by
  induction messages with
  | nil => exact ⟨rfl, rfl⟩
  | cons message rest induction => exact induction

/-- The laws of the error classes, for every error value: no error is both a
halt error and a retry error; `retry` and `NewRetryError` keep whether an
error halts and make every other error a retry error; and wrapping with any
number of `errors.Wrap`/`errors.Wrapf` layers changes neither class. -/
theorem error_class_laws (err : Error) :
    ¬ (isHaltError err = true ∧ isRetryError err = true) ∧
    isHaltError (retry err) = isHaltError err ∧
    isHaltError (newRetryError err) = isHaltError err ∧
    (isHaltError err = false →
      isRetryError (retry err) = true ∧ isRetryError (newRetryError err) = true) ∧
    ∀ messages : List String,
      isHaltError (messages.foldr Error.wrap err) = isHaltError err ∧
        isRetryError (messages.foldr Error.wrap err) = isRetryError err :=
  ⟨not_halt_and_retry err, isHaltError_retry err, isHaltError_retry err,
    fun notHalt => ⟨(retry_classified notHalt).1, (retry_classified notHalt).1⟩,
    fun messages => classes_wrap messages err⟩

end Thanos.Compact.Errors
