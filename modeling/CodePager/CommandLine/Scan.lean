import CodePager.CommandLine.Grammar

/-! # Reading the command line

What is given on the command line and in the environment. `scan` goes through the words that stand
in one place, `given` reads a place with all that follows it: the words first, then those behind the
command, and only then a value that was still to be looked at and the variables of the
environment. An option is checked when the next one begins, so the first of two faults is not always
the one that is reported. -/

namespace CodePager.CommandLine

/-- Why a command line is refused. -/
inductive UsageError where
  | unknownCommand (word : String)
  | unexpectedArgument (word : String)
  /-- A value for an option that takes none. -/
  | unexpectedValue (value option : String)
  | missingValue (option : String)
  | usedTwice (option : String)
  | badValue (value option : String) (fault : NumberFault)
  deriving DecidableEq

/-- The wording of a refused command line. -/
def UsageError.message : UsageError → String
  | .unknownCommand word => "unrecognized subcommand '" ++ word ++ "'"
  | .unexpectedArgument word => "unexpected argument '" ++ word ++ "' found"
  | .unexpectedValue value option =>
    "unexpected value '" ++ value ++ "' for '" ++ option ++ "' found; no more were expected"
  | .missingValue option => "a value is required for '" ++ option ++ "' but none was supplied"
  | .usedTwice option => "the argument '" ++ option ++ "' cannot be used multiple times"
  | .badValue value option fault =>
    "invalid value '" ++ value ++ "' for '" ++ option ++ "': " ++ fault.message

/-- Why reading stops before the command line has been read. -/
inductive Halt where
  | help
  | version
  | refused (error : UsageError)
  deriving DecidableEq

/-- Where the values of an option come from; later ones outrank earlier ones. -/
inductive Origin where
  | environment
  | commandLine
  deriving DecidableEq

/-- The values that are given for an option. -/
structure Given where
  origin : Origin
  values : List OptionValue
  deriving DecidableEq

/-- What is given for the options of one place, by their names. -/
abbrev Settings := List (String × Given)

/-! ## Values -/

/-- The values that a word stands for: its pieces between commas where these separate values. -/
def pieces (o : OptionSpec) (word : String) : List String :=
  if o.arity = .commaSeparated then (word.toList.splitOnP (· == ',')).map String.ofList else [word]

/-- Reads the values of an option; the first that cannot be read is reported. -/
def readValues (o : OptionSpec) : List String → Except Halt (List OptionValue)
  | [] => .ok []
  | word :: rest =>
    match o.kind.read word with
    | .error fault => .error (.refused (.badValue word o.display fault))
    | .ok v => (readValues o rest).map (v :: ·)

/-- Takes note of values for an option. Only some options may be given more than once. -/
def note (origin : Origin) (o : OptionSpec) (words : List String) (s : Settings) :
    Except Halt Settings :=
  let before := ((s.lookup o.name).map Given.values).getD []
  if (o.arity = .switch ∨ o.arity = .single) ∧ (s.lookup o.name).isSome then
    .error (.refused (.usedTwice o.display))
  else
    match readValues o words with
    | .error e => .error e
    | .ok values =>
      .ok ((o.name, ⟨origin, before ++ values⟩) :: s.filter fun given => given.1 ≠ o.name)

/-! ## Words -/

/-- An option whose value has not been looked at: it may still be missing. -/
structure Pending where
  option : OptionSpec
  value : Option String

/-- Settles a pending option. -/
def settle (pending : Option Pending) (s : Settings) : Except Halt Settings :=
  match pending with
  | none => .ok s
  | some ⟨o, some word⟩ => note .commandLine o (pieces o word) s
  | some ⟨o, none⟩ => .error (.refused (.missingValue o.display))

/-- Where a scan has come to: what is given so far, the option that is pending, and the command that
was met, with the words behind it. -/
structure Scanned where
  settings : Settings
  pending : Option Pending
  command : Option (Command × List String)

/-- What a word is. -/
inductive Word where
  /-- Two dashes: no option follows. -/
  | endOfOptions
  /-- A name behind two dashes, and a value behind an equals sign if there is one. -/
  | long (name : String) (value : Option String)
  /-- Letters behind one dash, of which the first counts. -/
  | short (letter : Char)
  | plain
  deriving DecidableEq

/-- Tells what a word is. A single dash is a plain word. -/
def Word.ofText (text : String) : Word :=
  match text.toList with
  | ['-', '-'] => .endOfOptions
  | '-' :: '-' :: cs =>
    let name := String.ofList (cs.takeWhile (· ≠ '='))
    match cs.dropWhile (· ≠ '=') with
    | _ :: value => .long name (some (String.ofList value))
    | [] => .long name none
  | '-' :: c :: _ => .short c
  | _ => .plain

/-- What a named option does to a scan. -/
def takeLong (place : Place) (name : String) (value : Option String) (pending : Option Pending)
    (s : Settings) : Except Halt (Settings × Option Pending) :=
  let noValue := fun (halt : Halt) =>
    match value with
    | some v => .error (.refused (.unexpectedValue v ("--" ++ name)))
    | none =>
      match settle pending s with
      | .error e => .error e
      | .ok _ => .error halt
  if name = "help" then noValue .help
  else if name = "version" ∧ place = none then noValue .version
  else
    match place.options.find? fun o => o.name == name with
    | none => .error (.refused (.unexpectedArgument ("--" ++ name)))
    | some o =>
      if o.arity = .switch then
        match value with
        | some v => .error (.refused (.unexpectedValue v o.display))
        | none => do
          let s ← settle pending s
          let s ← note .commandLine o [] s
          pure (s, none)
      else do
        let s ← settle pending s
        match value with
        | some v =>
          let s ← note .commandLine o (pieces o v) s
          pure (s, none)
        | none => pure (s, some ⟨o, none⟩)

/-- What a letter does to a scan. -/
def takeShort {α : Type} (place : Place) (letter : Char) (pending : Option Pending) (s : Settings) :
    Except Halt α :=
  let halt? : Option Halt :=
    if letter = 'h' then some .help
    else if letter = 'V' ∧ place = none then some .version
    else none
  match halt? with
  | none => .error (.refused (.unexpectedArgument ("-" ++ String.singleton letter)))
  | some halt => (settle pending s).bind fun _ => .error halt

/-- Refuses a plain word that names no command. -/
def refusePlain (place : Place) (word : String) : Halt :=
  .refused (if place = none then .unknownCommand word else .unexpectedArgument word)

/-- Goes through the words behind two dashes: there may be none. -/
def scanRest (place : Place) (pending : Option Pending) (s : Settings) :
    List String → Except Halt Scanned
  | [] => .ok ⟨s, pending, none⟩
  | word :: _ =>
    if (place.command? word).isSome || (place.isNone && word == "help") then
      .error (.refused (.unexpectedArgument word))
    else .error (refusePlain place word)

/-- The help that is asked for by a command: on the whole, or on one command. -/
def helpOn : List String → Halt
  | [] => .help
  | word :: rest =>
    if word = "help" ∨ (Place.command? none word).isSome then
      match rest with
      | [] => .help
      | other :: _ => .refused (.unknownCommand other)
    else .refused (.unknownCommand word)

/-- **Goes through the words of a place**, up to a command or to the end. -/
def scan (place : Place) : Option Pending → Settings → List String → Except Halt Scanned
  | pending, s, [] => .ok ⟨s, pending, none⟩
  | pending, s, word :: rest =>
    let waits := pending.any fun p => p.value.isNone
    if !waits && (place.command? word).isSome then
      .ok ⟨s, pending, (place.command? word).map fun c => (c, rest)⟩
    else if !waits && place.isNone && word == "help" then .error (helpOn rest)
    else
      match Word.ofText word with
      | .endOfOptions => scanRest place pending s rest
      | .long name value =>
        match takeLong place name value pending s with
        | .error e => .error e
        | .ok (s, pending) => scan place pending s rest
      | .short letter => takeShort place letter pending s
      | .plain =>
        match pending with
        | some ⟨o, none⟩ => scan place (some ⟨o, some word⟩) s rest
        | _ => .error (refusePlain place word)

/-! ## The environment -/

/-- Takes note of the environment's values for options that are not given. -/
def noteEnvironment (environment : List (String × String)) :
    List OptionSpec → Settings → Except Halt Settings
  | [], s => .ok s
  | o :: rest, s =>
    match o.variableName.bind fun name => environment.lookup name with
    | some word =>
      if (s.lookup o.name).isSome then noteEnvironment environment rest s
      else
        match note .environment o (pieces o word) s with
        | .error e => .error e
        | .ok s => noteEnvironment environment rest s
    | none => noteEnvironment environment rest s

/-- Completes the settings of a place: the option that is pending, then the environment. -/
def complete (environment : List (String × String)) (place : Place) (scanned : Scanned) :
    Except Halt Settings :=
  match settle scanned.pending scanned.settings with
  | .error e => .error e
  | .ok s => noteEnvironment environment place.options s

/-! ## Places together -/

/-- Whether settings from one origin outrank those from another. -/
def Origin.outranks (a b : Origin) : Bool := a = .commandLine && b = .environment

/-- The settings of two places together: those behind the command win unless the others outrank
them. -/
def merge (before behind : Settings) : Settings :=
  behind.map (fun (name, g) =>
    match before.lookup name with
    | some earlier => (name, if earlier.origin.outranks g.origin then earlier else g)
    | none => (name, g)) ++
  before.filter fun (name, _) => (behind.lookup name).isNone

/-- **What is given**: the command, and the settings from the command line and the environment. -/
def given (environment : List (String × String)) (words : List String) :
    Except Halt (Option Command × Settings) :=
  match scan none none [] words with
  | .error e => .error e
  | .ok scanned =>
    match scanned.command with
    | none => (complete environment none scanned).map fun s => (none, s)
    | some (command, rest) =>
      match (scan (some command) none [] rest).bind (complete environment (some command)) with
      | .error e => .error e
      | .ok behind =>
        (complete environment none scanned).map fun before => (some command, merge before behind)

end CodePager.CommandLine
