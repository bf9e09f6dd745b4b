import CodePager.Tools.Requests
import CodePager.Tools.Tool

/-! # Schemas of requests

The JSON schema of a request, in two dialects: the one that documents a tool says of an optional
field that it may be null, the one that offers it to clients marks the field as nullable. -/

namespace CodePager

/-- How a schema says that a field may be left out. -/
inductive SchemaDialect where
  /-- The type is a list of the proper type and null. -/
  | typeList
  /-- The type is the proper type, and a mark follows. -/
  | nullableMark
  deriving DecidableEq

/-- The name of a kind of argument in a schema. -/
def ArgumentKind.schemaType : ArgumentKind → String
  | .text => "string"
  | .integer => "integer"
  | .count => "integer"
  | .flag => "boolean"

/-- What a schema says about the range of a kind of argument. -/
def ArgumentKind.schemaFormat : ArgumentKind → List (String × Json)
  | .integer => [("format", .str "int64")]
  | .count => [("format", .str "uint"), ("minimum", .int 0)]
  | _ => []

/-- The schema of a field. -/
def ArgumentField.schema (f : ArgumentField) (dialect : SchemaDialect) : Json :=
  let proper := f.kind.schemaType
  let type :=
    if f.optional && dialect = .typeList then .arr [.str proper, .str "null"] else .str proper
  let mark :=
    if f.optional && dialect = .nullableMark then [("nullable", .bool true)] else []
  .obj ([("description", .str f.description), ("type", type)] ++ f.kind.schemaFormat ++ mark)

/-- The fields of some parts, those of nested parts in their place. -/
def allFields : List RequestPart → List ArgumentField
  | [] => []
  | .field f :: parts => f :: allFields parts
  | .nested inner :: parts => allFields inner ++ allFields parts

/-- The **schema of a request**. -/
def RequestShape.schema (s : RequestShape) (dialect : SchemaDialect) : Json :=
  let fields := allFields s.parts
  let required := fields.filter fun f => !f.optional
  .obj <|
    [("$schema", .str "https://json-schema.org/draft/2020-12/schema"), ("title", .str s.title)] ++
    (s.description.toList.map fun d => ("description", .str d)) ++
    [("type", .str "object")] ++
    (if fields.isEmpty then []
     else [("properties", .obj (fields.map fun f => (f.name, f.schema dialect)))]) ++
    (if required.isEmpty then []
     else [("required", .ofTexts (required.map fun f => f.name))])

namespace Tool

/-- The request that a tool takes. -/
def request : Tool → RequestShape
  | .health => .none
  | .cacheStats => .none
  | .toolCatalog => .toolCatalog
  | .toolHelp => .toolHelp
  | .getCurrentClass => .paged
  | .getSelectedText => .paged
  | .getAllClasses => .paged
  | .getAndroidManifest => .paged
  | .getMainActivity => .paged
  | .getMainApplicationClassesCode => .paged
  | .getMainApplicationClassesNames => .paged
  | .getStrings => .paged
  | .getListAllResourceFilesNames => .paged
  | .getClassSource => .classPage
  | .getSmaliOfClass => .classPage
  | .getMethods => .classPage
  | .getFields => .classPage
  | .getClassInfo => .ofClass
  | .getMethodSource => .methodPage
  | .searchMethod => .methodPage
  | .getMethodParameters => .methodPage
  | .getMethodInstructions => .methodPage
  | .getMethodInfo => .method
  | .getMethodSourcePage => .methodSourcePage
  | .getResourceFile => .resourceFile
  | .getCachedPage => .cachedPage
  | .clearCache => .clearCache
  | .renameClass => .renameClass
  | .renameMethod => .renameMethod
  | .renameField => .renameField
  | .renameMethodParameter => .renameMethodParameter
  | .addClassComment => .addClassComment
  | .addMethodComment => .addMethodComment
  | .addFieldComment => .addFieldComment

/-- Whether a tool takes no arguments, and does not look at those it is given. -/
def ignoresArguments (t : Tool) : Bool := t = .health || t = .cacheStats

/-- The entry under which a tool is offered to clients. -/
def offered (t : Tool) : Json :=
  .obj
    [("name", .str t.name), ("description", .str t.info.offer),
     ("inputSchema",
      if t.ignoresArguments then .obj [("type", .str "object"), ("properties", .obj [])]
      else t.request.schema .nullableMark)]

end Tool

end CodePager
