import CodePager.Failure

/-! # Page requests

Which page a caller wants. The arguments of a tool call are signed 64-bit numbers; `positive?`
accepts those from one on and `PageRequest.ofArguments` makes a request of them. -/

namespace CodePager

/-- A count argument from one on; an absent one stays absent. -/
def positive? (name : String) (value : Option Int64) : Except Failure (Option UInt64) :=
  match value with
  | none => .ok none
  | some n =>
    if 1 ≤ n then .ok (some n.toUInt64)
    else .error (.invalidArgument (name ++ " must be at least 1, got " ++ toString n.toInt))

/-- The page that a caller wants, and whether it must be fetched anew. -/
structure PageRequest where
  index : Option UInt64
  size : Option UInt64
  refresh : Bool
  deriving DecidableEq

namespace PageRequest

/-- The page that the arguments of a call ask for. -/
def ofArguments (index size : Option Int64) (refresh : Option Bool) : Except Failure PageRequest :=
  match positive? "page_index" index with
  | .error e => .error e
  | .ok index =>
    match positive? "page_size" size with
    | .error e => .error e
    | .ok size => .ok ⟨index, size, refresh.getD false⟩

/-- The number of the page, the first by default. -/
def number (r : PageRequest) : UInt64 := r.index.getD 1

/-- Whether the result **must be fetched**: the first page always, and any page on demand. -/
def wantsFresh (r : PageRequest) : Bool := r.refresh || r.number == 1

/-- The size of the page, the configured one by default. -/
def sizeOr (r : PageRequest) (defaultSize : UInt64) : UInt64 := r.size.getD defaultSize

end PageRequest

end CodePager
