import CodePager.Json.Value

/-! # Request parameters

The named parameters of a request, in the order in which they were first set. A parameter that is
set again keeps its place and takes the new value; setting one to the empty text changes nothing, so
an absent value is never sent. -/

namespace CodePager

/-- The parameters of a request. -/
structure Params where
  pairs : List (String × String)
  deriving DecidableEq

namespace Params

/-- No parameters. -/
def empty : Params := ⟨[]⟩

/-- Sets a parameter, unless the value is empty. -/
def set (p : Params) (key value : String) : Params :=
  if value = "" then p else ⟨Fields.put key value p.pairs⟩

/-- Sets a parameter if there is a value for it. -/
def setOpt (p : Params) (key : String) (value : Option String) : Params :=
  match value with
  | some v => p.set key v
  | none => p

/-- Sets a parameter to a number. -/
def setNum (p : Params) (key : String) (value : Int) : Params := p.set key (toString value)

/-- The value of a parameter. -/
def get? (p : Params) (key : String) : Option String := Fields.get? key p.pairs

/-- Sets every parameter of another list, in its order. -/
def extend (p other : Params) : Params := other.pairs.foldl (fun q kv => q.set kv.1 kv.2) p

/-- Whether there are no parameters. -/
def isEmpty (p : Params) : Bool := p.pairs.isEmpty

/-- Nothing is set to an empty value: `p.set key "" = p`. -/
@[simp] theorem set_empty (p : Params) (key : String) : p.set key "" = p := by simp [set]

/-- What has been set is found: `(p.set key value).get? key = some value`. -/
theorem get?_set_self (p : Params) (key : String) {value : String} (h : value ≠ "") :
    (p.set key value).get? key = some value := by simp [set, get?, h]

/-- What is set leaves the other parameters: `(p.set key value).get? other = p.get? other`. -/
theorem get?_set_of_ne (p : Params) {key other : String} (h : other ≠ key) (value : String) :
    (p.set key value).get? other = p.get? other := by
  unfold set get?
  split
  · rfl
  · exact Fields.get?_put_of_ne h value p.pairs

end Params

end CodePager
