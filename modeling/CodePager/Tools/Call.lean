import CodePager.Service.Write
import CodePager.Tools.Catalog

/-! # Tool calls

A call of a tool with arguments, decoded and carried out. `ToolCall.decode` reads the arguments,
`ToolCall.perform` is the dialogue that answers the call. A failure is an answer too; only a tool
that does not exist and arguments that cannot be read are refused. -/

namespace CodePager

/-- The page that a call asks for, as given. -/
structure PageArguments where
  index : Option Int64
  size : Option Int64
  refresh : Option Bool
  deriving DecidableEq

/-- The page that a call asks for, checked. -/
def PageArguments.request (p : PageArguments) : Except Failure PageRequest :=
  PageRequest.ofArguments p.index p.size p.refresh

namespace Arguments

/-- The class that arguments name. -/
def classTarget (a : Arguments) : ClassTarget := ⟨a.text? "class_raw_name", a.text? "class_name"⟩

/-- The method that arguments name. -/
def methodTarget (a : Arguments) : MethodTarget :=
  ⟨a.classTarget, a.text? "method_original_name", a.text? "method_name",
   a.text? "method_signature"⟩

/-- The field that arguments name. -/
def fieldTarget (a : Arguments) : FieldTarget :=
  ⟨a.classTarget, a.text? "field_raw_name", a.text? "field_name"⟩

/-- The page that arguments ask for. -/
def page (a : Arguments) : PageArguments :=
  ⟨a.integer? "page_index", a.integer? "page_size", a.flag? "refresh"⟩

/-- A text that must have been given. -/
def requiredText (a : Arguments) (name : String) : String := (a.text? name).getD ""

end Arguments

/-- A tool call whose arguments have been read. -/
inductive ToolCall where
  | health
  | catalog (query category : Option String) (limit : Option UInt64)
  | help (name : String)
  | read (route : Route) (page : PageArguments)
  | readClass (route : Route) (target : ClassTarget) (page : PageArguments)
  | readMethod (route : Route) (target : MethodTarget) (page : PageArguments)
  | classInfo (target : ClassTarget)
  | methodInfo (target : MethodTarget)
  | methodSource (target : MethodTarget) (page : PageArguments)
  | methodSourcePage (index linesPerPage : Option Int64)
  | searchMethod (target : MethodTarget) (page : PageArguments)
  | resourceFile (filename : String) (page : PageArguments)
  | cachedPage (key : String) (index size : Option Int64)
  | cacheStats
  | clearCache (key : Option String)
  | renameClass (target : ClassTarget) (newName : Option String)
  | renameMethod (target : MethodTarget) (newName : Option String)
  | renameField (target : FieldTarget) (newName : Option String)
  | renameMethodParameter (target : MethodTarget) (index : Int64) (newName : Option String)
  | addClassComment (target : ClassTarget) (comment : String) (style : Option String)
  | addMethodComment (target : MethodTarget) (comment : String) (style : Option String)
  | addFieldComment (target : FieldTarget) (comment : String) (style : Option String)

/-- The answer to a tool call: a value, which may report a failure. -/
structure ToolAnswer where
  isError : Bool
  body : Json

namespace ToolAnswer

/-- The text that a client is given. -/
def text (a : ToolAnswer) : String := a.body.pretty

/-- The answer of an attempt, a failure included. -/
def ofResult {α : Type} (toJson : α → Json) : Except Failure α → ToolAnswer
  | .ok a => ⟨false, toJson a⟩
  | .error e => ⟨true, e.toJson⟩

end ToolAnswer

/-- Why a tool call is refused. -/
inductive CallRefusal where
  | unknownTool
  | badArguments (error : DecodeError)

/-- The wording of a refusal. -/
def CallRefusal.message : CallRefusal → String
  | .unknownTool => "tool not found"
  | .badArguments e => "failed to deserialize parameters: " ++ e.message

namespace ToolCall

/-- The call of a tool with arguments that have been read. -/
def ofArguments (t : Tool) (a : Arguments) : ToolCall :=
  match t with
  | .health => .health
  | .toolCatalog => .catalog (a.text? "query") (a.text? "category") (a.count? "limit")
  | .toolHelp => .help (a.requiredText "name")
  | .getCurrentClass => .read .currentClass a.page
  | .getSelectedText => .read .selectedText a.page
  | .getAllClasses => .read .allClasses a.page
  | .getClassSource => .readClass .classSource a.classTarget a.page
  | .getSmaliOfClass => .readClass .smaliOfClass a.classTarget a.page
  | .getClassInfo => .classInfo a.classTarget
  | .getMethods => .readClass .methods a.classTarget a.page
  | .getFields => .readClass .fields a.classTarget a.page
  | .getMethodSource => .methodSource a.methodTarget a.page
  | .getMethodSourcePage =>
    .methodSourcePage (a.integer? "page_index") (a.integer? "lines_per_page")
  | .getMethodInfo => .methodInfo a.methodTarget
  | .searchMethod => .searchMethod a.methodTarget a.page
  | .getMethodParameters => .readMethod .methodParameters a.methodTarget a.page
  | .getMethodInstructions => .readMethod .methodInstructions a.methodTarget a.page
  | .getAndroidManifest => .read .manifest a.page
  | .getMainActivity => .read .mainActivity a.page
  | .getMainApplicationClassesCode => .read .mainApplicationClassesCode a.page
  | .getMainApplicationClassesNames => .read .mainApplicationClassesNames a.page
  | .getStrings => .read .strings a.page
  | .getListAllResourceFilesNames => .read .resourceFileNames a.page
  | .getResourceFile => .resourceFile (a.requiredText "filename") a.page
  | .getCachedPage =>
    .cachedPage (a.requiredText "cache_key") (a.integer? "page_index") (a.integer? "page_size")
  | .cacheStats => .cacheStats
  | .clearCache => .clearCache (a.text? "cache_key")
  | .renameClass => .renameClass a.classTarget (a.text? "new_name")
  | .renameMethod => .renameMethod a.methodTarget (a.text? "new_name")
  | .renameField => .renameField a.fieldTarget (a.text? "new_name")
  | .renameMethodParameter =>
    .renameMethodParameter a.methodTarget ((a.integer? "parameter_index").getD 0)
      (a.text? "new_name")
  | .addClassComment => .addClassComment a.classTarget (a.requiredText "comment") (a.text? "style")
  | .addMethodComment =>
    .addMethodComment a.methodTarget (a.requiredText "comment") (a.text? "style")
  | .addFieldComment => .addFieldComment a.fieldTarget (a.requiredText "comment") (a.text? "style")

/-- **Reads a call**: the name of a tool and an object of arguments. -/
def decode (name : String) (object : List (String × Json)) : Except CallRefusal ToolCall :=
  match Tool.ofName? name with
  | none => .error .unknownTool
  | some t =>
    if t.ignoresArguments then .ok (ofArguments t [])
    else
      match t.request.read object with
      | .error e => .error (.badArguments e)
      | .ok a => .ok (ofArguments t a)

/-- A read of the page that a call asks for, once the page has been checked. -/
def paged (page : PageArguments) (read : PageRequest → Attempt ReadResult) : Dialogue ToolAnswer :=
  let attempt : Attempt ReadResult := do
    let r ← Attempt.ofExcept page.request
    read r
  attempt.run.bind fun result => .done (.ofResult ReadResult.toJson result)

/-- The answer of an attempt whose result is a value. -/
def valued (attempt : Attempt Json) : Dialogue ToolAnswer :=
  attempt.run.bind fun result => .done (.ofResult id result)

/-- The answer of an attempt whose result is a page. -/
def pageOf (attempt : Attempt Page) : Dialogue ToolAnswer :=
  attempt.run.bind fun result => .done (.ofResult (fun p => .obj p.fields) result)

/-- **Carries out a call.** -/
def perform (s : Service) : ToolCall → Dialogue ToolAnswer
  | .health => valued s.health
  | .catalog query category limit => .done ⟨false, Tool.catalog query category limit⟩
  | .help name => .done ⟨false, Tool.help name⟩
  | .read route page => paged page (s.read route)
  | .readClass route target page => paged page (s.readClass route target)
  | .readMethod route target page => paged page (s.readMethod route target)
  | .classInfo target => valued (s.classInfo target)
  | .methodInfo target => valued (s.methodInfo target)
  | .methodSource target page => paged page (s.methodSource target)
  | .methodSourcePage index linesPerPage => pageOf (s.methodSourcePage index linesPerPage)
  | .searchMethod target page => paged page (s.searchMethod target)
  | .resourceFile filename page => paged page (s.resourceFile filename)
  | .cachedPage key index size => pageOf (s.cachedPage key index size)
  | .cacheStats => s.stats.bind fun stats => .done ⟨false, stats.toJson⟩
  | .clearCache key =>
    (s.clear key).bind fun removed => .done ⟨false, .obj [("removed", .ofNat removed)]⟩
  | .renameClass target newName => valued (s.renameClass target newName)
  | .renameMethod target newName => valued (s.renameMethod target newName)
  | .renameField target newName => valued (s.renameField target newName)
  | .renameMethodParameter target index newName =>
    valued (s.renameMethodParameter target index newName)
  | .addClassComment target comment style => valued (s.addClassComment target comment style)
  | .addMethodComment target comment style => valued (s.addMethodComment target comment style)
  | .addFieldComment target comment style => valued (s.addFieldComment target comment style)

end ToolCall

end CodePager
