import CodePager.Json.DecodeError

/-! # Arguments of tools

How the arguments of a call are read. A request is a list of parts: fields, each with its name, its
other names and the kind of its value, and nested lists of parts whose fields stand beside them in
the same object. `readRequest` takes the values out of an object; the order of the object's fields
does not matter to them, and fields that the request does not name are skipped. -/

namespace CodePager

/-- The kind of an argument. -/
inductive ArgumentKind where
  | text
  /-- A signed 64-bit number. -/
  | integer
  /-- An unsigned 64-bit number. -/
  | count
  | flag
  deriving DecidableEq

/-- The value of an argument. -/
inductive ArgumentValue where
  | text (value : String)
  | integer (value : Int64)
  | count (value : UInt64)
  | flag (value : Bool)
  deriving DecidableEq

/-- What messages call the values of a kind. -/
def ArgumentKind.expected : ArgumentKind → String
  | .text => "a string"
  | .integer => "i64"
  | .count => "usize"
  | .flag => "a boolean"

/-- Reads a value of a kind. -/
def ArgumentKind.read (kind : ArgumentKind) (v : Json) : Except DecodeError ArgumentValue :=
  match kind, v with
  | .text, .str s => .ok (.text s)
  | .integer, .int n =>
    if IsSigned n then .ok (.integer (Int64.ofInt n))
    else .error (.invalidValue v kind.expected)
  | .count, .int n =>
    if IsCount n then .ok (.count (UInt64.ofNat n.toNat))
    else .error (.invalidValue v kind.expected)
  | .flag, .bool b => .ok (.flag b)
  | _, _ => .error (.invalidType v kind.expected)

/-- A field of a request. -/
structure ArgumentField where
  name : String
  /-- The other names under which the field may be given. -/
  aliases : List String
  kind : ArgumentKind
  /-- Whether the field may be left out or be null. -/
  optional : Bool
  description : String

/-- Whether a field may be given under a name. -/
def ArgumentField.isNamed (f : ArgumentField) (key : String) : Bool :=
  key == f.name || f.aliases.contains key

/-- Reads the value of a field; null is no value where the field may be left out. -/
def ArgumentField.read (f : ArgumentField) (v : Json) :
    Except DecodeError (Option ArgumentValue) :=
  match f.optional, v with
  | true, .null => .ok none
  | _, v => (f.kind.read v).map some

/-- A part of a request: a field, or parts that stand beside it in the same object. -/
inductive RequestPart where
  | field (field : ArgumentField)
  | nested (parts : List RequestPart)

/-- A kind of request: its title, what its schema says about it, and its parts. -/
structure RequestShape where
  title : String
  description : Option String
  parts : List RequestPart

/-- The values that were given for fields, by the names of the fields. -/
abbrev Arguments := List (String × Option ArgumentValue)

/-- The fields among some parts. -/
def ownFields (parts : List RequestPart) : List ArgumentField :=
  parts.filterMap fun
    | .field f => some f
    | .nested _ => none

/-- Reads the fields that an object gives, in the order of the object. -/
def readGiven (own : List ArgumentField) :
    Arguments → List (String × Json) → Except DecodeError Arguments
  | read, [] => .ok read
  | read, (key, v) :: rest =>
    match own.find? fun f => f.isNamed key with
    | none => readGiven own read rest
    | some f =>
      if read.any fun a => a.1 == f.name then .error (.duplicateField f.name)
      else
        match f.read v with
        | .error e => .error e
        | .ok value => readGiven own (read ++ [(f.name, value)]) rest

/-- Reads the fields of some parts and checks that none is missing that must be given. -/
def readOwn (own : List ArgumentField) (object : List (String × Json)) :
    Except DecodeError Arguments :=
  match readGiven own [] object with
  | .error e => .error e
  | .ok read =>
    match own.find? fun f => !f.optional && !(read.any fun a => a.1 == f.name) with
    | some f => .error (.missingField f.name)
    | none => .ok read

/-- The fields of an object that no given field is named by. -/
def notOwn (own : List ArgumentField) (object : List (String × Json)) : List (String × Json) :=
  object.filter fun kv => !(own.any fun f => f.isNamed kv.1)

/-- Reads nested parts, in their order: of each first its own fields, then what is nested in it. -/
def readNested : List RequestPart → List (String × Json) → Except DecodeError Arguments
  | [], _ => .ok []
  | .field _ :: parts, object => readNested parts object
  | .nested inner :: parts, object =>
    match readOwn (ownFields inner) object with
    | .error e => .error e
    | .ok own =>
      match readNested inner (notOwn (ownFields inner) object) with
      | .error e => .error e
      | .ok deeper =>
        match readNested parts object with
        | .error e => .error e
        | .ok later => .ok (own ++ deeper ++ later)

/-- The **arguments that an object gives** for a request: its own fields first, then the nested
ones. -/
def readRequest (parts : List RequestPart) (object : List (String × Json)) :
    Except DecodeError Arguments :=
  readNested [.nested parts] object

namespace Arguments

/-- The value given for a field. -/
def value? (a : Arguments) (name : String) : Option ArgumentValue := (Fields.get? name a).join

/-- The text given for a field. -/
def text? (a : Arguments) (name : String) : Option String :=
  match a.value? name with
  | some (.text s) => some s
  | _ => none

/-- The signed number given for a field. -/
def integer? (a : Arguments) (name : String) : Option Int64 :=
  match a.value? name with
  | some (.integer n) => some n
  | _ => none

/-- The unsigned number given for a field. -/
def count? (a : Arguments) (name : String) : Option UInt64 :=
  match a.value? name with
  | some (.count n) => some n
  | _ => none

/-- The truth value given for a field. -/
def flag? (a : Arguments) (name : String) : Option Bool :=
  match a.value? name with
  | some (.flag b) => some b
  | _ => none

end Arguments

end CodePager
