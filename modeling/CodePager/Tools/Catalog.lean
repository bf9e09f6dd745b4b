import CodePager.Tools.Schema
import CodePager.Tools.Search

/-! # The catalog

The answers about the tools themselves: which tools there are (`catalog`) and how one is used
(`help`). -/

namespace CodePager

namespace Tool

/-- How many tools an answer lists at most, and how many by default. -/
def maxListed : Nat := 15

/-- How many tools an answer lists when it is not asked for a number. -/
def defaultListed : Nat := 7

/-- A tool in a list. -/
def listing (t : Tool) : List (String × Json) :=
  [("name", .str t.name), ("description", .str t.info.summary),
   ("category", .str t.info.category.name)]

/-- The hint under every list of tools. -/
def helpHint : Json := .str "Use tool_help(name) for full documentation and examples"

/-- The tools of a category. -/
def listCategory (c : ToolCategory) (limit : Nat) : Json :=
  .obj
    [("category", .str c.name), ("category_description", .str c.description),
     ("tools", .arr (((inCategory c).take limit).map fun t => .obj t.listing)), ("hint", helpHint)]

/-- The tools that fit a query. -/
def listSearch (query : String) (limit : Nat) : Json :=
  .obj
    [("query", .str query),
     ("tools", .arr ((search query limit).map fun found =>
        .obj (found.1.listing ++ [("matched", .ofTexts found.2)]))),
     ("hint", helpHint)]

/-- The categories. -/
def listCategories : Json :=
  .obj
    [("categories", .arr (ToolCategory.all.map fun c =>
        .obj
          [("category", .str c.name), ("description", .str c.description),
           ("tool_count", .ofNat (inCategory c).length)])),
     ("hint", .str ("Use tool_catalog(category='...') to list tools in a category, or " ++
        "tool_catalog(query='...') to search."))]

/-- **Which tools there are**: those of a category if one is named, else those that fit a query,
else the categories. -/
def catalog (query category : Option String) (limit : Option UInt64) : Json :=
  let limit := min (limit.elim defaultListed UInt64.toNat) maxListed
  match category.bind ToolCategory.ofText?, query with
  | some c, _ => listCategory c limit
  | none, some query => listSearch query limit
  | none, none => listCategories

/-- **How a tool is used**, or which tools have a similar name. -/
def help (name : String) : Json :=
  match ofName? name with
  | some t =>
    .obj
      [("name", .str t.name), ("category", .str t.info.category.name),
       ("description", .str t.info.details), ("parameters", t.request.schema .typeList),
       ("example", .str t.info.usage), ("keywords", .ofTexts t.info.keywords)]
  | none =>
    .obj
      [("error", .str ("Tool '" ++ name ++ "' not found")),
       ("suggestions", .ofTexts ((search name 3).map fun found => found.1.name)),
       ("hint", .str "Use tool_catalog to discover available tools")]

end Tool

end CodePager
