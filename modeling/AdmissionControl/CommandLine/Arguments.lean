import AdmissionControl.CommandLine.Basic
import AdmissionControl.Text.Blank

/-!
# Reading a command line

Arguments are read from left to right, and the first that cannot be understood ends the reading, as
does the first that asks for help or for the version. A value that is an argument of its own is only
looked at when the next option at the same place comes, or at the end; what the whole command line
lacks is only looked for then, too.
-/

namespace AdmissionControl.CommandLine

open Text

/-- What a command line is answered with instead of being carried out. -/
inductive Notice where
  | help (page : Page)
  | version
  | misuse (cause : Misuse)
deriving DecidableEq

/-- The options that are given at one place. -/
structure Scope where
  options : Options := {}
  /-- The last option, whose value is still to be looked at or still to come. -/
  pending : Option (OptionName × Option (List Char)) := none

namespace Scope

/-- Sets an option of a place. -/
def put (scope : Scope) (option : OptionName) (value : List Char) : Except Misuse Scope :=
  (scope.options.set option value).map fun options => { options }

/-- Looks at the value of the last option. -/
def settle (scope : Scope) : Except Misuse Scope :=
  match scope.pending with
  | none => .ok scope
  | some (option, none) => .error (.missingValue option)
  | some (option, some value) => scope.put option value

end Scope

/-- How far a command line has been read. -/
structure Reading where
  page : Page := .program
  /-- Whether words only name the place that help is wanted for. -/
  helping : Bool := false
  /-- What stands before the name of the command. -/
  outer : Scope := {}
  /-- What stands at the place that has been reached. -/
  scope : Scope := {}
  /-- Whether no further option can come. -/
  closed : Bool := false

namespace Reading

/-- Looks at the value of the last option at the place that has been reached. -/
def settle (reading : Reading) : Except Notice Reading :=
  (reading.scope.settle.map fun scope => { reading with scope }).mapError .misuse

/-- Takes what is written after two dashes: an option, and its value if an equals sign follows. -/
def takeLong (reading : Reading) (text : List Char) : Except Notice Reading := do
  let (name, value?) :=
    match cut? '=' text with
    | some (name, value) => (name, some value)
    | none => (text, none)
  let flag? : Option Notice :=
    if name = "help".toList then some (.help reading.page)
    else if name = "version".toList && reading.page = .program then some .version
    else none
  let settled ← reading.settle
  match flag?, reading.page.option? name, value? with
  | some notice, _, none => throw notice
  | some _, _, some _ => throw (.misuse (.unexpectedValue text))
  | none, some option, some value =>
      let scope ← (settled.scope.put option value).mapError .misuse
      pure { settled with scope }
  | none, some option, none =>
      pure { settled with scope := { settled.scope with pending := some (option, none) } }
  | none, none, _ => throw (.misuse (.unknownOption text))

/-- Takes the letter after a single dash. -/
def takeLetter (reading : Reading) (letter : Char) : Except Notice Reading := do
  let settled ← reading.settle
  if letter = 'h' then throw (.help settled.page)
  else if letter = 'V' && settled.page = .program then throw .version
  else throw (.misuse (.unknownOption [letter]))

/-- Takes a word that is no option. -/
def takeWord (reading : Reading) (word : List Char) : Except Notice Reading :=
  match reading.page.enter? word with
  | some page =>
      if reading.helping then .ok { reading with page }
      else if page = .help then .ok { reading with helping := true }
      else .ok { page, outer := reading.scope }
  | none => .error (.misuse (.unexpectedWord word))

/-- Takes one argument. After two dashes alone no option can come, and a single dash is a word. -/
def take (reading : Reading) (argument : List Char) : Except Notice Reading :=
  if reading.closed then .error (.misuse (.unexpectedWord argument))
  else if reading.helping then reading.takeWord argument
  else
    match reading.scope.pending, argument with
    | _, ['-', '-'] => .ok { reading with closed := true }
    | _, '-' :: '-' :: text => reading.takeLong text
    | _, '-' :: letter :: _ => reading.takeLetter letter
    | some (option, none), value =>
        .ok { reading with scope := { reading.scope with pending := some (option, some value) } }
    | _, word => reading.takeWord word

/-- The configuration file that is meant. One given by the environment stands back behind one of the
command line, but has to be fit for every place that names none. -/
def configFile (reading : Reading) (usual : Option (List Char)) :
    Except Misuse (Option (List Char)) :=
  match usual, reading.scope.options.configFile, reading.outer.options.configFile with
  | _, some inner, some _ => .ok (some inner)
  | some [], _, _ => .error (.badValue .configFile [])
  | _, some inner, none => .ok (some inner)
  | _, none, some outer => .ok (some outer)
  | usual, none, none => .ok usual

/-- The command at a place, with the options that are given there. -/
def command (reading : Reading) : Except Misuse Command :=
  match reading.page with
  | .serve =>
      let options := reading.scope.options
      .ok (.serve options.socketPath options.workers options.targetMilliseconds)
  | .stats => .ok .stats
  | .program | .help => .error .missingCommand

/-- What a command line asks for that has been read to its end. -/
def invocation (reading : Reading) (usual : Option (List Char)) : Except Misuse Invocation := do
  let scope ← reading.scope.settle
  let outer ← reading.outer.settle
  let settled := { reading with scope, outer }
  let command ← settled.command
  let configFile ← settled.configFile usual
  let logFormat := (scope.options.logFormat <|> outer.options.logFormat).getD .text
  pure { configFile, logFormat, command }

/-- Ends the reading. -/
def finish (reading : Reading) (usual : Option (List Char)) : Except Notice Invocation :=
  if reading.helping then .error (.help reading.page)
  else (reading.invocation usual).mapError .misuse

end Reading

/-- Reads a command line; `usual` is the configuration file that the environment names. -/
def read (usual : Option (List Char)) (arguments : List (List Char)) :
    Except Notice Invocation := do
  let reading ← arguments.foldlM Reading.take {}
  reading.finish usual

end AdmissionControl.CommandLine
