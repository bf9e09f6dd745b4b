import CodePager.Tools.Arguments

/-! # Requests

The requests that tools take, as lists of fields. `RequestShape.all` lists them; a request that
contains another has its fields beside its own. -/

namespace CodePager

namespace RequestShape

/-- A text that may be left out. -/
def optionalText (name : String) (aliases : List String) (description : String) : RequestPart :=
  .field ⟨name, aliases, .text, true, description⟩

/-- A text that must be given. -/
def requiredText (name : String) (aliases : List String) (description : String) : RequestPart :=
  .field ⟨name, aliases, .text, false, description⟩

/-- A signed number that may be left out. -/
def optionalInteger (name : String) (aliases : List String) (description : String) : RequestPart :=
  .field ⟨name, aliases, .integer, true, description⟩

/-! ### Parts -/

/-- The page that is wanted. -/
def pageParts : List RequestPart :=
  [optionalInteger "page_index" ["page"]
     "1-based page number (default: 1). Page 1 always refetches",
   optionalInteger "page_size" ["lines_per_page", "limit"]
     "Units (lines or records) per page (default: 200)",
   .field ⟨"refresh", [], .flag, true,
     "Refetch from the backend even for later pages (default: false)"⟩]

/-- The names of a class. -/
def classParts : List RequestPart :=
  [optionalText "class_raw_name" []
     "Raw (obfuscated) class name, e.g. androidx.core.i.d. Wins over class_name",
   optionalText "class_name" ["class"] "Display class name, e.g. com.example.MainActivity"]

/-- The names of a method and of its class. -/
def methodParts : List RequestPart :=
  [.nested classParts,
   optionalText "method_original_name" ["original_name"]
     "Original (pre-rename) method name, e.g. y. Wins over method_name",
   optionalText "method_name" ["method"] "Method name as currently shown, e.g. onCreate",
   optionalText "method_signature" ["signature"]
     "Method short id to pick an overload, e.g. onCreate(Landroid/os/Bundle;)V"]

/-- The names of a field and of its class. -/
def fieldParts : List RequestPart :=
  [.nested classParts,
   optionalText "field_raw_name" [] "Raw (obfuscated) field name. Wins over field_name",
   optionalText "field_name" ["field"] "Field name as currently shown"]

/-- A comment and the style that it takes by default. -/
def commentParts (styles : String) : List RequestPart :=
  [requiredText "comment" [] "Comment text", optionalText "style" [] styles]

/-- A new name for something. -/
def newNamePart (what : String) : RequestPart :=
  optionalText "new_name" [] ("New " ++ what ++ " name. Empty resets to the original name")

/-! ### Requests -/

/-- What the schema of every request with a page says. -/
def pagingNote : Option String := some "Paging arguments shared by every cache-backed read."

/-- A request without arguments. -/
def none : RequestShape := ⟨"EmptyParams", Option.none, []⟩

/-- A page and nothing else. -/
def pageArgs : RequestShape := ⟨"PageArgs", pagingNote, pageParts⟩

/-- The page of a result that needs no names. -/
def paged : RequestShape := ⟨"PagedRequest", pagingNote, [.nested pageParts]⟩

/-- A class. -/
def ofClass : RequestShape := ⟨"ClassRequest", Option.none, classParts⟩

/-- A page of something of a class. -/
def classPage : RequestShape :=
  ⟨"ClassPageRequest", pagingNote, [.nested classParts, .nested pageParts]⟩

/-- A method. -/
def method : RequestShape := ⟨"MethodRequest", Option.none, methodParts⟩

/-- A page of something of a method. -/
def methodPage : RequestShape :=
  ⟨"MethodPageRequest", pagingNote, [.nested methodParts, .nested pageParts]⟩

/-- A page of the last method source. -/
def methodSourcePage : RequestShape :=
  ⟨"MethodSourcePageRequest", Option.none,
   [optionalInteger "page_index" ["page"] "1-based page number (default: 1)",
    optionalInteger "lines_per_page" ["page_size"] "Lines per page (default: 200)"]⟩

/-- A field. -/
def field : RequestShape := ⟨"FieldRequest", Option.none, fieldParts⟩

/-- A page of a resource file. -/
def resourceFile : RequestShape :=
  ⟨"ResourceFileRequest", pagingNote,
   [requiredText "filename" ["name", "path"]
      "Resource file name, e.g. res/layout/activity_main.xml",
    .nested pageParts]⟩

/-- A page of a cached result. -/
def cachedPage : RequestShape :=
  ⟨"CachedPageRequest", Option.none,
   [requiredText "cache_key" ["key"]
      "cache_key returned by a cached read, e.g. get-class-source:com.example.Main",
    optionalInteger "page_index" ["page"] "1-based page number (default: 1)",
    optionalInteger "page_size" ["lines_per_page"] "Units per page (default: 200)"]⟩

/-- What to drop from the cache. -/
def clearCache : RequestShape :=
  ⟨"ClearCacheRequest", Option.none,
   [optionalText "cache_key" ["key"] "Entry to drop. Omit to drop every entry"]⟩

/-- A new name for a class. -/
def renameClass : RequestShape :=
  ⟨"RenameClassRequest", Option.none, [.nested classParts, newNamePart "class"]⟩

/-- A new name for a method. -/
def renameMethod : RequestShape :=
  ⟨"RenameMethodRequest", Option.none, [.nested methodParts, newNamePart "method"]⟩

/-- A new name for a field. -/
def renameField : RequestShape :=
  ⟨"RenameFieldRequest", Option.none, [.nested fieldParts, newNamePart "field"]⟩

/-- A new name for a parameter of a method. -/
def renameMethodParameter : RequestShape :=
  ⟨"RenameMethodParameterRequest", Option.none,
   [.nested methodParts,
    .field ⟨"parameter_index", ["index"], .integer, false,
      "0-based index of the parameter to rename"⟩,
    newNamePart "parameter"]⟩

/-- A comment on a class. -/
def addClassComment : RequestShape :=
  ⟨"AddClassCommentRequest", Option.none,
   .nested classParts :: commentParts "JAVADOC (default) or LINE"⟩

/-- A comment on a method. -/
def addMethodComment : RequestShape :=
  ⟨"AddMethodCommentRequest", Option.none,
   .nested methodParts :: commentParts "JAVADOC (default) or LINE"⟩

/-- A comment on a field. -/
def addFieldComment : RequestShape :=
  ⟨"AddFieldCommentRequest", Option.none,
   .nested fieldParts :: commentParts "LINE (default) or JAVADOC"⟩

/-- A search among the tools. -/
def toolCatalog : RequestShape :=
  ⟨"ToolCatalogRequest", Option.none,
   [optionalText "query" ["q"] "Free-text search, e.g. 'rename a method' or 'smali'",
    optionalText "category" []
      "Restrict to one category (see tool_catalog with no arguments)",
    .field ⟨"limit", [], .count, true, "Maximum tools to return (default: 7, max: 15)"⟩]⟩

/-- The tool to be explained. -/
def toolHelp : RequestShape :=
  ⟨"ToolHelpRequest", Option.none,
   [requiredText "name" ["tool"] "Tool name, e.g. get_class_source"]⟩

/-- Every request. -/
def all : List RequestShape :=
  [none, pageArgs, paged, ofClass, classPage, method, methodPage, methodSourcePage, field,
   resourceFile, cachedPage, clearCache, renameClass, renameMethod, renameField,
   renameMethodParameter, addClassComment, addMethodComment, addFieldComment, toolCatalog, toolHelp]

/-- The request with a title. -/
def ofTitle? (title : String) : Option RequestShape := all.find? fun s => s.title == title

/-- The arguments that an object gives for a request. -/
def read (s : RequestShape) (object : List (String × Json)) : Except DecodeError Arguments :=
  readRequest s.parts object

end RequestShape

end CodePager
