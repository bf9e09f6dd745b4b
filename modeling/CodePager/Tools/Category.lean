import CodePager.Json.DecodeError
import CodePager.Text.Blank
import CodePager.Text.LowerCase

/-! # Tool categories

The groups that tools are listed in, and the two ways in which one is named: loosely by a caller
(`ToolCategory.ofText?`), exactly in a JSON value (`ToolCategory.ofJson`). -/

namespace CodePager

/-- A group of tools. -/
inductive ToolCategory where
  /-- Health of the backend and discovery. -/
  | core
  /-- Lists of classes, their sources and members. -/
  | classes
  /-- Sources of methods, their metadata, search. -/
  | methods
  /-- The manifest and the entry points of the application. -/
  | android
  /-- Strings and files. -/
  | resources
  /-- Cached pages and the cache itself. -/
  | paging
  /-- Renaming and comments. -/
  | editing
  deriving DecidableEq

namespace ToolCategory

/-- Every category, in the order in which they are listed. -/
def all : List ToolCategory :=
  [.core, .classes, .methods, .android, .resources, .paging, .editing]

/-- The name of a category. -/
def name : ToolCategory → String
  | .core => "core"
  | .classes => "classes"
  | .methods => "methods"
  | .android => "android"
  | .resources => "resources"
  | .paging => "paging"
  | .editing => "editing"

/-- The name of a category as a heading. -/
def title : ToolCategory → String
  | .core => "Core"
  | .classes => "Classes"
  | .methods => "Methods"
  | .android => "Android"
  | .resources => "Resources"
  | .paging => "Paging"
  | .editing => "Editing"

/-- What the tools of a category do. -/
def description : ToolCategory → String
  | .core => "Backend health check and tool discovery"
  | .classes => "List classes; read class source, smali, info, methods and fields"
  | .methods => "Read method source, info, parameters and instructions; search methods"
  | .android => "AndroidManifest.xml, main activity and Application classes"
  | .resources => "String resources and resource files"
  | .paging => "Page through cached results and inspect the cache"
  | .editing => "Rename classes, methods, fields and parameters; add comments"

/-- The words that name a category. -/
def synonyms : ToolCategory → List String
  | .core => ["core", "discovery"]
  | .classes => ["classes", "class"]
  | .methods => ["methods", "method"]
  | .android => ["android", "manifest", "app"]
  | .resources => ["resources", "resource", "res"]
  | .paging => ["paging", "cache", "pages"]
  | .editing => ["editing", "edit", "rename", "comments"]

/-- The category that a caller names: in any case, with blanks around it, and with hyphens and
spaces for underscores. -/
def ofText? (text : String) : Option ToolCategory :=
  let normal := (Text.lowerCase (Text.trim text)).map fun c =>
    if c == '-' || c == ' ' then '_' else c
  all.find? fun c => c.synonyms.contains normal

/-- The category with exactly this name. -/
def ofName (name : String) : Except DecodeError ToolCategory :=
  match all.find? fun c => c.name == name with
  | some c => .ok c
  | none => .error (.unknownVariant name (all.map ToolCategory.name))

/-- The category that a value names: a string, or an object whose only field has the name as its key
and null as its value. -/
def ofJson : Json → Except DecodeError ToolCategory
  | .str name => ofName name
  | .obj [(name, v)] =>
    match ofName name, v with
    | .error e, _ => .error e
    | .ok c, .null => .ok c
    | .ok _, v => .error (.invalidType v "unit")
  | .obj fields => .error (.invalidValue (.obj fields) "map with a single key")
  | v => .error (.invalidType v "string or map")

end ToolCategory

end CodePager
