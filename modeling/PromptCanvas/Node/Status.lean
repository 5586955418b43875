import PromptCanvas.Text.Symbols

set_option autoImplicit false

/-! # Execution status

A node is idle until it is run; a run ends ready or failed, and a node that is not running can be run
again. Nothing else is allowed: a run that has started cannot be taken back. -/

namespace PromptCanvas

/-- Where a node is in its execution. -/
inductive Status where
  | idle
  | running
  | ready
  | failed
deriving DecidableEq, Repr, Inhabited

namespace Status

/-- All statuses. -/
def all : List Status := [idle, running, ready, failed]

/-- The name of a status in requests and answers. -/
def slug : Status → String
  | idle => "idle"
  | running => "running"
  | ready => "ready"
  | failed => "failed"

/-- The status with a name. -/
def ofSlug? (s : String) : Option Status := all.find? fun status => status.slug == s

/-- The statuses that may follow a status. -/
def next : Status → List Status
  | idle => [running]
  | ready => [running]
  | failed => [running]
  | running => [ready, failed]

end Status

/-! ## Failures -/

/-- Why a node produced nothing, coarsely. -/
inductive FailureKind where
  | emptyPrompt
  | quotaExceeded
  | serviceError
  | unknown
deriving DecidableEq, Repr, Inhabited

namespace FailureKind

/-- All kinds of failure. -/
def all : List FailureKind := [emptyPrompt, quotaExceeded, serviceError, unknown]

/-- The name of a kind of failure. -/
def slug : FailureKind → String
  | emptyPrompt => "empty_prompt"
  | quotaExceeded => "quota_exceeded"
  | serviceError => "service_error"
  | unknown => "unknown"

/-- The kind of failure with a name. -/
def ofSlug? (s : String) : Option FailureKind := all.find? fun kind => kind.slug == s

end FailureKind

/-- Why a node produced nothing: the kind of failure and a message fit to show. What a service has to say may be
    torn. -/
structure Failure where
  kind : FailureKind := .unknown
  message : Writing := ""
deriving DecidableEq, Repr, Inhabited

end PromptCanvas
