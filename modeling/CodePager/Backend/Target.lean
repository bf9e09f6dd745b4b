import CodePager.Backend.Params
import CodePager.Failure
import CodePager.Text.Blank

/-! # Targets

Which class, method or field a caller means. A caller may give several names; the first that is not
blank decides (`firstPresent?`), the raw name, which survives renaming, before the name as
shown. All names that are not blank are sent to the backend, which prefers them in the same
order. -/

namespace CodePager

/-- A name that a caller may identify something by. -/
structure Candidate where
  param : String
  value : Option String
  stable : Bool

/-- The name that decided: the parameter that gave it, its value without blanks around it, and
whether it survives renaming. -/
structure Resolved where
  foundBy : String
  value : String
  stable : Bool
  deriving DecidableEq

namespace Resolved

/-- The part of a cache key that stands for a resolved name. A name that survives renaming is tagged
with its parameter, so that it differs from a shown name of the same text. -/
def keyToken (r : Resolved) : String :=
  if r.stable then r.foundBy ++ "=" ++ r.value else r.value

/-- A resolved name as a value. -/
def toJson (r : Resolved) : Json :=
  .obj [("found_by", .str r.foundBy), ("value", .str r.value)]

end Resolved

/-- A name without blanks around it, if it is not blank. -/
def nonBlank? (name : Option String) : Option String :=
  (name.map Text.trim).filter (· ≠ "")

/-- The **first candidate that is not blank**. -/
def firstPresent? (candidates : List Candidate) : Option Resolved :=
  candidates.findSome? fun c => (nonBlank? c.value).map fun v => ⟨c.param, v, c.stable⟩

/-- The names of a class. -/
structure ClassTarget where
  rawName : Option String
  name : Option String
  deriving DecidableEq

namespace ClassTarget

/-- The names of a class, the deciding one first. -/
def candidates (t : ClassTarget) : List Candidate :=
  [⟨"class_raw_name", t.rawName, true⟩, ⟨"class_name", t.name, false⟩]

/-- The name that decides which class is meant. -/
def resolve? (t : ClassTarget) : Option Resolved := firstPresent? t.candidates

/-- The name that decides, or the failure that there is none. -/
def require (t : ClassTarget) : Except Failure Resolved :=
  match t.resolve? with
  | some r => .ok r
  | none => .error (.invalidArgument "provide class_raw_name or class_name")

/-- The parameters that tell the backend which class is meant. -/
def params (t : ClassTarget) : Params :=
  (Params.empty.setOpt "class_raw_name" (nonBlank? t.rawName)).setOpt "class_name"
    (nonBlank? t.name)

end ClassTarget

/-- A method or a field of a class, resolved. -/
structure ResolvedMember where
  owner : Resolved
  member : Resolved
  signature : Option String
  deriving DecidableEq

namespace ResolvedMember

/-- The parts of a cache key that stand for a member. -/
def keyTokens (r : ResolvedMember) : List String :=
  [r.owner.keyToken, r.member.keyToken] ++ r.signature.toList

/-- A resolved member as a value. -/
def toJson (r : ResolvedMember) : Json :=
  .obj <| [("class", r.owner.toJson), ("member", r.member.toJson)] ++
    r.signature.toList.map fun s => ("signature", .str s)

end ResolvedMember

/-- The names of a method, and the signature that picks one of several of the same name. -/
structure MethodTarget where
  owner : ClassTarget
  rawName : Option String
  name : Option String
  signature : Option String
  deriving DecidableEq

namespace MethodTarget

/-- The names of a method, the deciding one first. -/
def candidates (t : MethodTarget) : List Candidate :=
  [⟨"method_original_name", t.rawName, true⟩, ⟨"method_name", t.name, false⟩]

/-- The name that decides which method is meant. -/
def resolveMethod? (t : MethodTarget) : Option Resolved := firstPresent? t.candidates

/-- The class, the method and the signature that are meant, or the failure about the first of class
and method that is missing. -/
def require (t : MethodTarget) : Except Failure ResolvedMember :=
  match t.owner.require with
  | .error e => .error e
  | .ok owner =>
    match t.resolveMethod? with
    | some member => .ok ⟨owner, member, nonBlank? t.signature⟩
    | none => .error (.invalidArgument "provide method_original_name or method_name")

/-- The parameters that tell the backend which method is meant. Its plain `method` parameter takes
the shown name before the raw one. -/
def params (t : MethodTarget) : Params :=
  let raw := nonBlank? t.rawName
  let name := nonBlank? t.name
  (((t.owner.params.setOpt "method_original_name" raw).setOpt "method_name" name).setOpt "method"
    (name <|> raw)).setOpt "method_signature" (nonBlank? t.signature)

end MethodTarget

/-- The names of a field. -/
structure FieldTarget where
  owner : ClassTarget
  rawName : Option String
  name : Option String
  deriving DecidableEq

namespace FieldTarget

/-- The names of a field, the deciding one first. -/
def candidates (t : FieldTarget) : List Candidate :=
  [⟨"field_raw_name", t.rawName, true⟩, ⟨"field_name", t.name, false⟩]

/-- The class and the field that are meant, or the failure about the first that is missing. -/
def require (t : FieldTarget) : Except Failure ResolvedMember :=
  match t.owner.require with
  | .error e => .error e
  | .ok owner =>
    match firstPresent? t.candidates with
    | some member => .ok ⟨owner, member, none⟩
    | none => .error (.invalidArgument "provide field_raw_name or field_name")

/-- The parameters that tell the backend which field is meant. -/
def params (t : FieldTarget) : Params :=
  (t.owner.params.setOpt "field_raw_name" (nonBlank? t.rawName)).setOpt "field_name"
    (nonBlank? t.name)

end FieldTarget

end CodePager
