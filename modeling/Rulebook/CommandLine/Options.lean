/-
  Rulebook.CommandLine.Options

  The arguments of the command line.  They are taken in order, and the first that
  decides the outcome (one that is refused, or that asks for the version) does so.
-/

namespace Rulebook.CommandLine

/-- What the command line asks to be done. -/
structure Options where
  /-- The file with the configuration document. -/
  config : String
  /-- The rule set to start from. -/
  root : String
  /-- The file that the export of the report is written to. -/
  issues : Option String
  /-- The file that the reference of the kinds is written to. -/
  reference : Option String
  /-- The path that the rule set is run on. -/
  input : String
  deriving DecidableEq, Repr

/-- What a list of arguments comes to. -/
inductive Request
  | run (options : Options)
  | version
  | refused
  deriving DecidableEq, Repr

/-! ## Arguments with a value -/

/-- The arguments that have a value. -/
inductive Argument
  | config
  | root
  | issues
  | reference
  | input
  deriving DecidableEq, Repr

/-- The values given so far. -/
abbrev Given := List (Argument × String)

namespace Argument

/-- The argument of a long name. -/
def ofName? (name : String) : Option Argument :=
  if name = "config" then some config
  else if name = "root" then some root
  else if name = "issues" then some issues
  else if name = "export-types" then some reference
  else none

/-- The argument of a letter. -/
def ofLetter? (letter : Char) : Option Argument :=
  if letter = 'c' then some config
  else if letter = 'r' then some root
  else none

/-- Give an argument its value.  None may be given twice, and only the name of a rule
    set may be empty. -/
def give (argument : Argument) (value : String) (given : Given) : Option Given :=
  if given.any (·.1 == argument) || (argument != root && value.isEmpty) then none
  else some (given ++ [(argument, value)])

end Argument

/-- The value that was given to an argument. -/
def valueOf (given : Given) (argument : Argument) : Option String :=
  (given.find? (·.1 == argument)).map Prod.snd

/-- The request of the values given by all arguments. -/
def conclude (given : Given) : Request :=
  match valueOf given .config, valueOf given .input with
  | some config, some input =>
    .run { config, input, root := (valueOf given .root).getD "."
           issues := valueOf given .issues, reference := valueOf given .reference }
  | _, _ => .refused

/-! ## Taking arguments -/

/-- What an argument comes to by itself. -/
inductive Taken
  /-- It is complete. -/
  | complete (given : Given)
  /-- The next argument is the value of this one. -/
  | expects (argument : Argument)
  | version
  | refused
  deriving DecidableEq, Repr

namespace Taken

/-- Complete with the values given, if they are allowed. -/
def ofGiven : Option Given → Taken
  | some given => complete given
  | none => refused

end Taken

/-- Take the letters behind a dash. -/
def takeLetters (given : Given) : List Char → Taken
  | [] => .complete given
  | 'v' :: rest => takeLetters given rest
  | 'V' :: _ => .version
  | letter :: rest =>
    match Argument.ofLetter? letter with
    | none => .refused
    | some argument =>
      match rest with
      | [] => .expects argument
      | '=' :: value => .ofGiven (argument.give (String.ofList value) given)
      | value => .ofGiven (argument.give (String.ofList value) given)

/-- Take the text behind two dashes: a name, and perhaps a value behind an equals sign. -/
def takeName (given : Given) (text : List Char) : Taken :=
  let name := String.ofList (text.takeWhile (· != '='))
  match text.dropWhile (· != '=') with
  | _ :: value =>
    match Argument.ofName? name with
    | some argument => .ofGiven (argument.give (String.ofList value) given)
    | none => .refused
  | [] =>
    if name = "verbose" then .complete given
    else if name = "version" then .version
    else
      match Argument.ofName? name with
      | some argument => .expects argument
      | none => .refused

/-- Whether an argument can be a value that stands by itself. -/
def isValue (argument : String) : Bool :=
  argument == "-" || argument.toList.head? != some '-'

/-- Take one argument. -/
def take (given : Given) (argument : String) : Taken :=
  if isValue argument then .ofGiven (Argument.input.give argument given)
  else
    match argument.toList with
    | '-' :: '-' :: text => takeName given text
    | _ :: letters => takeLetters given letters
    | [] => .refused

/-- Take arguments that are all values. -/
def takeValues (given : Given) : List String → Request
  | [] => conclude given
  | argument :: rest =>
    match Argument.input.give argument given with
    | some given => takeValues given rest
    | none => .refused

/-- The request of some arguments, behind those that gave the given values.  Behind two
    dashes by themselves all arguments are values. -/
def parseFrom (given : Given) : List String → Request
  | [] => conclude given
  | argument :: rest =>
    if argument = "--" then takeValues given rest
    else
      match take given argument with
      | .complete given => parseFrom given rest
      | .version => .version
      | .refused => .refused
      | .expects option =>
        match rest with
        | [] => .refused
        | value :: rest =>
          if isValue value then
            match option.give value given with
            | some given => parseFrom given rest
            | none => .refused
          else .refused

/-- The request of the arguments of a command line. -/
def parse (arguments : List String) : Request := parseFrom [] arguments

end Rulebook.CommandLine
