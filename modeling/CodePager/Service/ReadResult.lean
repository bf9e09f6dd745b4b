import CodePager.Cache.Page

/-! # Results of reading

What a read gives: the whole result if it is small or cannot be paged, and otherwise one page of the
cached result. Either tells which names decided what was read. -/

namespace CodePager

/-- What a read gives. -/
inductive ReadOutcome where
  /-- The whole result, with the number and kind of its units if it has any. -/
  | inline (units : Option (Nat × UnitKind)) (content : Json)
  /-- One page of a cached result. -/
  | paged (page : Page)

/-- What a read gives, and which names decided what was read. -/
structure ReadResult where
  outcome : ReadOutcome
  foundBy : Option Json

/-- A result of reading as clients see it. -/
def ReadResult.toJson (r : ReadResult) : Json :=
  let foundBy := r.foundBy.toList.map fun v => ("found_by", v)
  match r.outcome with
  | .inline none content =>
    .obj ([("cached", .bool false), ("content", content)] ++ foundBy)
  | .inline (some (total, kind)) content =>
    .obj
      ([("cached", .bool false), ("total_units", .ofNat total), ("unit", .str kind.name),
        ("content", content)] ++ foundBy)
  | .paged page => .obj (("cached", .bool true) :: page.fields ++ foundBy)

/-- Which name decided the class. -/
def Resolved.foundByClass (owner : Resolved) : Json := .obj [("class", .str owner.foundBy)]

/-- Which names decided the class and the member. -/
def ResolvedMember.foundByMember (r : ResolvedMember) : Json :=
  .obj [("class", .str r.owner.foundBy), ("member", .str r.member.foundBy)]

end CodePager
