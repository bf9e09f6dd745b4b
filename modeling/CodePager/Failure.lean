import CodePager.Json.Printer

/-! # Failures of a tool

Why a tool call fails, the wording of the failure, and its category. A failure is an answer like any
other: `Failure.toJson` is the value that the client sees. -/

namespace CodePager

/-- The coarse category that is reported with every failure: the caller's doing, the way to the
backend, or neither. -/
inductive FailureCategory where
  | client
  | transport
  | unexpected
  deriving DecidableEq

/-- The name of a category. -/
def FailureCategory.name : FailureCategory → String
  | .client => "client"
  | .transport => "transport"
  | .unexpected => "unexpected"

/-- Why a tool call fails. -/
inductive Failure where
  /-- The backend could not be reached, or stopped in the middle of its answer. -/
  | transport (detail : String)
  /-- The backend reports an error, with its status unless the status was a success. -/
  | backend (status : Option Nat) (message : String)
  /-- An argument is missing or out of range. -/
  | invalidArgument (detail : String)
  /-- Nothing is cached under a key. -/
  | notFound (detail : String)
  | unexpected (detail : String)
  deriving DecidableEq

namespace Failure

/-- The wording of a failure. -/
def message : Failure → String
  | .transport detail => "Backend unreachable: " ++ detail
  | .backend none text => "Backend error: " ++ text
  | .backend (some status) text => "Backend error (HTTP " ++ toString status ++ "): " ++ text
  | .invalidArgument detail => "Invalid argument: " ++ detail
  | .notFound detail => "Not found: " ++ detail
  | .unexpected detail => "Unexpected error: " ++ detail

/-- The category of a failure: what the caller can mend is the client's, an error that the backend
reports included. -/
def category : Failure → FailureCategory
  | .transport _ => .transport
  | .backend _ _ => .client
  | .invalidArgument _ => .client
  | .notFound _ => .client
  | .unexpected _ => .unexpected

/-- The answer that reports a failure. -/
def toJson (f : Failure) : Json :=
  .obj [("error", .str f.message), ("category", .str f.category.name)]

end Failure

end CodePager
