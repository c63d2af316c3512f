import BlockStorage.View

/-!
# The words of log records and metrics

Closed lists of the events, error classes and components that log records and
metric labels use.
-/

namespace BlockStorage

/-- What a log record reports. -/
inductive LogEvent
  | volumeCreated | volumeAttached | volumeDetached | volumeRemoved
  | snapshotCreated | snapshotDeleted
  | resourceNotFound | attachmentNotFound | attachmentConflict
  | pollStarted | pollSatisfied | pollTimeout | pollCancelled | pollFailed
  | remoteError | operationFailed | stateChanged
  deriving DecidableEq, Repr

instance : Vocabulary LogEvent where
  title := "LogEvent"
  all := [.volumeCreated, .volumeAttached, .volumeDetached, .volumeRemoved, .snapshotCreated,
    .snapshotDeleted, .resourceNotFound, .attachmentNotFound, .attachmentConflict, .pollStarted,
    .pollSatisfied, .pollTimeout, .pollCancelled, .pollFailed, .remoteError, .operationFailed,
    .stateChanged]
  value
    | .volumeCreated => "volume_created"
    | .volumeAttached => "volume_attached"
    | .volumeDetached => "volume_detached"
    | .volumeRemoved => "volume_removed"
    | .snapshotCreated => "snapshot_created"
    | .snapshotDeleted => "snapshot_deleted"
    | .resourceNotFound => "resource_not_found"
    | .attachmentNotFound => "attachment_not_found"
    | .attachmentConflict => "attachment_conflict"
    | .pollStarted => "poll_started"
    | .pollSatisfied => "poll_satisfied"
    | .pollTimeout => "poll_timeout"
    | .pollCancelled => "poll_cancelled"
    | .pollFailed => "poll_failed"
    | .remoteError => "remote_error"
    | .operationFailed => "operation_failed"
    | .stateChanged => "state_changed"

/-- The class of a failure: whether it may pass, will not, means absence, or ran out of budget. -/
inductive ErrorClass
  | transient | permanent | notFound | timeout
  deriving DecidableEq, Repr

instance : Vocabulary ErrorClass where
  title := "ErrorClass"
  all := [.transient, .permanent, .notFound, .timeout]
  value
    | .transient => "transient"
    | .permanent => "permanent"
    | .notFound => "not_found"
    | .timeout => "timeout"

/-- The part of the library that a log record comes from. -/
inductive Component
  | coordinator | store | poller | gateway
  deriving DecidableEq, Repr

instance : Vocabulary Component where
  title := "Component"
  all := [.coordinator, .store, .poller, .gateway]
  value
    | .coordinator => "coordinator"
    | .store => "store"
    | .poller => "poller"
    | .gateway => "gateway"

end BlockStorage
