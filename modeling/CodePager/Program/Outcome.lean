/-! # Outcomes

How a run of the program ends: its exit code, and what it has written to its output and its error
output. -/

namespace CodePager

/-- How a run of the program ends. -/
structure Outcome where
  exitCode : Nat
  output : String
  errors : String
  deriving DecidableEq

namespace Outcome

/-- A run that has done what it was asked to. -/
def success (output : String) : Outcome := ⟨0, output, ""⟩

/-- A run that fails after it has written some output. -/
def failure (output message : String) : Outcome := ⟨1, output, "Error: " ++ message ++ "\n"⟩

/-- A text with every line but the first indented. -/
def indented (text : String) : String :=
  String.join <| text.toList.map fun c => if c == '\n' then "\n    " else String.singleton c

/-- A run that fails for a cause that is reported below the failure. -/
def failureBecause (output message cause : String) : Outcome :=
  failure output (message ++ "\n\nCaused by:\n    " ++ indented cause)

/-- A run whose command line is refused. -/
def refusal (message : String) : Outcome := ⟨2, "", "error: " ++ message ++ "\n"⟩

end Outcome

end CodePager
