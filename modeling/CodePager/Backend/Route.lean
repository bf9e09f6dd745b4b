/-! # Routes of the backend

The operations that the decompiler offers over HTTP, their paths, which of them change the project,
and which of them answer page by page. `Route.all` fixes their order. -/

namespace CodePager

/-- What the pages of a route are counted in: characters of one text, or items of a list. -/
inductive PageUnit where
  | chars
  | items
  deriving DecidableEq

/-- The name of a page unit. -/
def PageUnit.name : PageUnit → String
  | .chars => "chars"
  | .items => "items"

/-- An operation of the backend. -/
inductive Route where
  | health
  | currentClass
  | allClasses
  | selectedText
  | classSource
  | smaliOfClass
  | classInfo
  | methodSource
  | methodInfo
  | searchMethod
  | methods
  | fields
  | methodParameters
  | methodInstructions
  | manifest
  | mainActivity
  | mainApplicationClassesCode
  | mainApplicationClassesNames
  | strings
  | resourceFileNames
  | resourceFile
  | renameClass
  | renameMethod
  | renameField
  | renameMethodParameter
  | addClassComment
  | addMethodComment
  | addFieldComment
  deriving DecidableEq

namespace Route

/-- Every route, reads before writes. -/
def all : List Route :=
  [.health, .currentClass, .allClasses, .selectedText, .classSource, .smaliOfClass, .classInfo,
   .methodSource, .methodInfo, .searchMethod, .methods, .fields, .methodParameters,
   .methodInstructions, .manifest, .mainActivity, .mainApplicationClassesCode,
   .mainApplicationClassesNames, .strings, .resourceFileNames, .resourceFile, .renameClass,
   .renameMethod, .renameField, .renameMethodParameter, .addClassComment, .addMethodComment,
   .addFieldComment]

/-- The path of a route, without the leading slash. -/
def path : Route → String
  | .health => "health"
  | .currentClass => "get-current-class"
  | .allClasses => "get-all-classes"
  | .selectedText => "get-selected-text"
  | .classSource => "get-class-source"
  | .smaliOfClass => "get-smali-of-class"
  | .classInfo => "get-class-info"
  | .methodSource => "get-method-source"
  | .methodInfo => "get-method-info"
  | .searchMethod => "search-method"
  | .methods => "get-methods"
  | .fields => "get-fields"
  | .methodParameters => "get-method-parameters"
  | .methodInstructions => "get-method-instructions"
  | .manifest => "get-manifest"
  | .mainActivity => "get-main-activity"
  | .mainApplicationClassesCode => "get-main-application-classes-code"
  | .mainApplicationClassesNames => "get-main-application-classes-names"
  | .strings => "get-strings"
  | .resourceFileNames => "get-list-all-resource-files-names"
  | .resourceFile => "get-resource-file"
  | .renameClass => "rename-class"
  | .renameMethod => "rename-method"
  | .renameField => "rename-field"
  | .renameMethodParameter => "rename-method-parameter"
  | .addClassComment => "add-class-comment"
  | .addMethodComment => "add-method-comment"
  | .addFieldComment => "add-field-comment"

/-- The route with a path; leading slashes do not count. -/
def ofPath? (path : String) : Option Route :=
  let bare := String.ofList (path.toList.dropWhile (· == '/'))
  all.find? fun r => r.path == bare

/-- Whether a route changes the project. -/
def isWrite : Route → Bool
  | .renameClass => true
  | .renameMethod => true
  | .renameField => true
  | .renameMethodParameter => true
  | .addClassComment => true
  | .addMethodComment => true
  | .addFieldComment => true
  | _ => false

/-- What a route that **answers page by page** counts its pages in. -/
def paging : Route → Option PageUnit
  | .selectedText => some .chars
  | .classSource => some .chars
  | .smaliOfClass => some .chars
  | .methodSource => some .chars
  | .manifest => some .chars
  | .mainActivity => some .chars
  | .resourceFile => some .chars
  | .allClasses => some .items
  | .searchMethod => some .items
  | .methodInstructions => some .items
  | .mainApplicationClassesCode => some .items
  | .resourceFileNames => some .items
  | _ => none

/-- Every route is listed. -/
theorem mem_all (r : Route) : r ∈ all := by cases r <;> decide

end Route

end CodePager
