/-
# Stack statuses

The provider reports where a stack is in its life by a status. Those that it is known to use are
told apart; any other text is kept as it came. Whether a status means failure or work in progress
is read off its text, so a status that is not known is judged by the same rule.
-/

import StackDeploy.Text.Cut

namespace StackDeploy

/-- The status of a stack. -/
inductive StackStatus where
  | createInProgress
  | createFailed
  | createComplete
  | rollbackInProgress
  | rollbackFailed
  | rollbackComplete
  | deleteInProgress
  | deleteFailed
  | deleteComplete
  | updateInProgress
  | updateCompleteCleanupInProgress
  | updateComplete
  | updateFailed
  | updateRollbackInProgress
  | updateRollbackFailed
  | updateRollbackCompleteCleanupInProgress
  | updateRollbackComplete
  | reviewInProgress
  | importInProgress
  | importComplete
  | importRollbackInProgress
  | importRollbackFailed
  | importRollbackComplete
  | other (text : String)
deriving DecidableEq

namespace StackStatus

/-- The statuses that are told apart. -/
def known : List StackStatus :=
  [createInProgress, createFailed, createComplete, rollbackInProgress, rollbackFailed,
    rollbackComplete, deleteInProgress, deleteFailed, deleteComplete, updateInProgress,
    updateCompleteCleanupInProgress, updateComplete, updateFailed, updateRollbackInProgress,
    updateRollbackFailed, updateRollbackCompleteCleanupInProgress, updateRollbackComplete,
    reviewInProgress, importInProgress, importComplete, importRollbackInProgress,
    importRollbackFailed, importRollbackComplete]

/-- The text of a status. -/
def text : StackStatus → String
  | createInProgress => "CREATE_IN_PROGRESS"
  | createFailed => "CREATE_FAILED"
  | createComplete => "CREATE_COMPLETE"
  | rollbackInProgress => "ROLLBACK_IN_PROGRESS"
  | rollbackFailed => "ROLLBACK_FAILED"
  | rollbackComplete => "ROLLBACK_COMPLETE"
  | deleteInProgress => "DELETE_IN_PROGRESS"
  | deleteFailed => "DELETE_FAILED"
  | deleteComplete => "DELETE_COMPLETE"
  | updateInProgress => "UPDATE_IN_PROGRESS"
  | updateCompleteCleanupInProgress => "UPDATE_COMPLETE_CLEANUP_IN_PROGRESS"
  | updateComplete => "UPDATE_COMPLETE"
  | updateFailed => "UPDATE_FAILED"
  | updateRollbackInProgress => "UPDATE_ROLLBACK_IN_PROGRESS"
  | updateRollbackFailed => "UPDATE_ROLLBACK_FAILED"
  | updateRollbackCompleteCleanupInProgress => "UPDATE_ROLLBACK_COMPLETE_CLEANUP_IN_PROGRESS"
  | updateRollbackComplete => "UPDATE_ROLLBACK_COMPLETE"
  | reviewInProgress => "REVIEW_IN_PROGRESS"
  | importInProgress => "IMPORT_IN_PROGRESS"
  | importComplete => "IMPORT_COMPLETE"
  | importRollbackInProgress => "IMPORT_ROLLBACK_IN_PROGRESS"
  | importRollbackFailed => "IMPORT_ROLLBACK_FAILED"
  | importRollbackComplete => "IMPORT_ROLLBACK_COMPLETE"
  | other text => text

/-- The status with a text. -/
def ofText (text : String) : StackStatus :=
  (known.find? fun status => status.text == text).getD (other text)

/-- Whether a status is told apart. -/
def isKnown (status : StackStatus) : Bool :=
  known.contains status

/-- Whether a status means that something failed, be it rolled back or not. -/
def isFailure (status : StackStatus) : Bool :=
  Text.endsWith status.text "_FAILED" || Text.endsWith status.text "ROLLBACK_COMPLETE"

/-- Whether the provider is still at work. -/
def isInProgress (status : StackStatus) : Bool :=
  Text.endsWith status.text "_IN_PROGRESS"

/-- The status of a text has that text. -/
theorem text_ofText (text : String) : (ofText text).text = text := by
  unfold ofText
  cases found : known.find? fun status => status.text == text with
  | none => rfl
  | some status => simpa using List.find?_some found

end StackStatus

/-- The operations on a stack that take their time. -/
inductive OperationKind where
  | create
  | update
  | delete
deriving DecidableEq

namespace OperationKind

/-- The status that ends an operation well. -/
def successStatus : OperationKind → StackStatus
  | create => .createComplete
  | update => .updateComplete
  | delete => .deleteComplete

/-- Whether a status ends an operation well. -/
def isSuccess (kind : OperationKind) (status : StackStatus) : Bool :=
  status == kind.successStatus

/-- Whether a status ends an operation badly. -/
def isFailure (kind : OperationKind) (status : StackStatus) : Bool :=
  status.isFailure && !kind.isSuccess status

end OperationKind

end StackDeploy
