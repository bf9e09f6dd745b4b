import CodePager.Service.Read

/-! # Writing

Changes to the project: renaming and comments. A change can show in any result, so the whole cache
is dropped before the change is submitted and once more when the backend has answered, whether it
accepted the change or not. -/

namespace CodePager

/-- How a comment is attached. -/
inductive CommentStyle where
  | javadoc
  | line
  deriving DecidableEq

namespace CommentStyle

/-- The name of a style. -/
def name : CommentStyle → String
  | .javadoc => "JAVADOC"
  | .line => "LINE"

/-- The style that an argument asks for, in any case and with blanks around it; the given one if
there is no argument or a blank one. -/
def ofArgument (argument : Option String) (otherwise : CommentStyle) :
    Except Failure CommentStyle :=
  let text := Text.trim (argument.getD "")
  if text = "" then .ok otherwise
  else if String.ofList (text.toList.map Char.toUpper) = "JAVADOC" then .ok .javadoc
  else if String.ofList (text.toList.map Char.toUpper) = "LINE" then .ok .line
  else .error (.invalidArgument ("style must be JAVADOC or LINE, got '" ++ text ++ "'"))

end CommentStyle

namespace Service

/-- Submits a change **between two clearings of the cache**. -/
def mutate (s : Service) (route : Route) (params : Params) : Attempt Json := ExceptT.mk <|
  .cache .clear fun _ =>
    (Gateway.submit s.config.backend route params).run.bind fun result =>
      .cache .clear fun _ => .done (result.map Payload.toJson)

/-- The parameters of a renaming: a blank name is left out, which takes the renaming back. -/
def withNewName (params : Params) (newName : Option String) : Params :=
  params.setOpt "newName" (newName.map Text.trim)

/-- The parameters of a comment. -/
def withComment (params : Params) (comment : String) (style : Option String)
    (otherwise : CommentStyle) : Except Failure Params :=
  if Text.trim comment = "" then .error (.invalidArgument "comment must not be empty")
  else
    match CommentStyle.ofArgument style otherwise with
    | .error e => .error e
    | .ok style => .ok ((params.set "comment" comment).set "style" style.name)

/-- Renames a class. -/
def renameClass (s : Service) (target : ClassTarget) (newName : Option String) : Attempt Json := do
  let _ ← Attempt.ofExcept target.require
  s.mutate .renameClass (withNewName target.params newName)

/-- Renames a method. -/
def renameMethod (s : Service) (target : MethodTarget) (newName : Option String) :
    Attempt Json := do
  let _ ← Attempt.ofExcept target.require
  s.mutate .renameMethod (withNewName target.params newName)

/-- Renames a field. -/
def renameField (s : Service) (target : FieldTarget) (newName : Option String) : Attempt Json := do
  let _ ← Attempt.ofExcept target.require
  s.mutate .renameField (withNewName target.params newName)

/-- Renames a parameter of a method, counted from zero. -/
def renameMethodParameter (s : Service) (target : MethodTarget) (index : Int64)
    (newName : Option String) : Attempt Json := do
  let _ ← Attempt.ofExcept target.require
  if index < 0 then
    throw (.invalidArgument ("parameter_index must be at least 0, got " ++ toString index.toInt))
  s.mutate .renameMethodParameter
    ((withNewName target.params newName).setNum "parameterIndex" index.toInt)

/-- Attaches a comment to a class. -/
def addClassComment (s : Service) (target : ClassTarget) (comment : String)
    (style : Option String) : Attempt Json := do
  let _ ← Attempt.ofExcept target.require
  let params ← Attempt.ofExcept (withComment target.params comment style .javadoc)
  s.mutate .addClassComment params

/-- Attaches a comment to a method. -/
def addMethodComment (s : Service) (target : MethodTarget) (comment : String)
    (style : Option String) : Attempt Json := do
  let _ ← Attempt.ofExcept target.require
  let params ← Attempt.ofExcept (withComment target.params comment style .javadoc)
  s.mutate .addMethodComment params

/-- Attaches a comment to a field. -/
def addFieldComment (s : Service) (target : FieldTarget) (comment : String)
    (style : Option String) : Attempt Json := do
  let _ ← Attempt.ofExcept target.require
  let params ← Attempt.ofExcept (withComment target.params comment style .line)
  s.mutate .addFieldComment params

end Service

end CodePager
