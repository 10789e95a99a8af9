import Clearance.Duration

/-!
# Options of a resolution

How many components go into one call, how long a call may take, how many calls may be in flight,
and what the failure of a call means for the whole resolution. Settings can be refused before any
work is done (`InvalidArgument`).
-/

set_option autoImplicit false

namespace Clearance

/-- Why settings are refused. -/
inductive InvalidArgument where
  /-- Batches must hold at least one item. -/
  | noBatchSize
  /-- At least one batch must be in flight at a time. -/
  | noConcurrency
  /-- A provider must be given some time to answer. -/
  | noTimeout
  /-- A provider is asked at most once. -/
  | repeatedProvider (name : String)
  deriving DecidableEq, Repr

namespace InvalidArgument

/-- The message for a refusal. -/
def message : InvalidArgument → String
  | noBatchSize => "invalid argument: batch size must be at least 1"
  | noConcurrency => "invalid argument: max concurrent batches must be at least 1"
  | noTimeout => "invalid argument: timeout must be greater than zero"
  | repeatedProvider name =>
    "invalid argument: provider `" ++ name ++ "` is listed more than once in providers.order"

end InvalidArgument

/-- What the failure of a call means for the resolution. -/
inductive FailureMode where
  /-- The resolution goes on without the answers of the call. -/
  | bestEffort
  /-- The resolution ends, with what it has found so far. -/
  | failFast
  deriving DecidableEq, Repr

/-- The options of a resolution. -/
structure Options where
  /-- The greatest number of components in one call. -/
  batchSize : Nat := 1000
  /-- The time that a call may take, from its own start. -/
  timeout : Duration := .ofSeconds 60
  mode : FailureMode := .bestEffort
  /-- The greatest number of calls in flight to one provider. -/
  concurrency : Nat := 1
  deriving DecidableEq, Repr

namespace Options

/-- The first reason to refuse the options, if there is one. -/
def refusal? (o : Options) : Option InvalidArgument :=
  if o.batchSize = 0 then some .noBatchSize
  else if o.concurrency = 0 then some .noConcurrency
  else if o.timeout.isZero then some .noTimeout
  else none

/-- Options that are not refused have a batch size. -/
theorem batchSize_pos {o : Options} (h : o.refusal? = none) : 0 < o.batchSize := by
  unfold refusal? at h
  split at h
  · simp at h
  · omega

end Options

end Clearance
